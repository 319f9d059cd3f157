import EventFeed.Unicode.Table

/-! # Direction

The direction in which a character is written, or how it adapts to its neighbours.
-/

namespace EventFeed.Unicode

inductive Direction where
  | leftToRight
  | rightToLeft
  /-- A digit of the European forms. -/
  | europeanNumber
  /-- A digit of the Arabic forms. -/
  | arabicNumber
  /-- Separators, signs and other characters that take the direction around them. -/
  | neutral
  /-- A mark, which belongs to the character before it. -/
  | nonspacing
  /-- A blank or a separator of paragraphs. -/
  | blank
  deriving DecidableEq, Repr

/-- Where the direction of the characters changes; a row holds the first character and its direction
as the number of the constructor. -/
def directions : Table := .ofLines [
  "0,4 9,6 e,4 1c,6 21,4 30,2 3a,4 61,0 7b,4 df,0 f7,4 f8,0 2b9,4 2bb,0 2c2,4 2d0,0 2d2,4 2ee,0",
  "2ef,4 300,5 371,0 375,4 377,0 3f6,4 3f8,0 483,5 48b,0 58a,4 591,5 5be,1 5bf,5 5c0,1 5c1,5",
  "5c3,1 5c4,5 5c6,1 5c7,5 5d0,1 606,4 608,1 609,4 60b,1 60c,4 60d,1 60e,4 610,5 61b,1 64b,5",
  "660,3 66a,4 66b,3 66d,1 670,5 671,1 6d6,5 6de,4 6df,5 6e5,1 6e7,5 6e9,4 6ea,5 6ee,1 6f0,2",
  "6fa,1 711,5 712,1 730,5 74d,1 7a6,5 7b1,1 7eb,5 7f4,1 7f6,4 7fa,1 7fd,5 7fe,1 816,5 81a,1",
  "81b,5 824,1 825,5 828,1 829,5 830,1 859,5 85e,1 897,5 8a0,1 8ca,5 903,0 93a,5 93b,0 93c,5",
  "93d,0 941,5 949,0 94d,5 94e,0 951,5 960,0 962,5 964,0 981,5 982,0 9bc,5 9bd,0 9c1,5 9c7,0",
  "9cd,5 9ce,0 9e2,5 9e6,0 9f2,4 9f4,0 9fb,4 9fc,0 9fe,5 a03,0 a3c,5 a3e,0 a41,5 a5c,0 a70,5",
  "a72,0 a75,5 a76,0 a81,5 a83,0 abc,5 abd,0 ac1,5 ac9,0 acd,5 ad0,0 ae2,5 ae6,0 af1,4 af9,0",
  "afa,5 b02,0 b3c,5 b3d,0 b3f,5 b40,0 b41,5 b47,0 b4d,5 b57,0 b62,5 b66,0 b82,5 b83,0 bc0,5",
  "bc1,0 bcd,5 bd0,0 bf3,4 c00,5 c01,0 c04,5 c05,0 c3c,5 c3d,0 c3e,5 c41,0 c46,5 c58,0 c62,5",
  "c66,0 c78,4 c7f,0 c81,5 c82,0 cbc,5 cbd,0 ccc,5 cd5,0 ce2,5 ce6,0 cf3,5 d02,0 d3b,5 d3d,0",
  "d41,5 d46,0 d4d,5 d4e,0 d62,5 d66,0 d81,5 d82,0 dca,5 dcf,0 dd2,5 dd8,0 e31,5 e32,0 e34,5",
  "e3f,4 e40,0 e47,5 e4f,0 eb1,5 eb2,0 eb4,5 ebd,0 ec8,5 ed0,0 f18,5 f1a,0 f35,5 f36,0 f37,5",
  "f38,0 f39,5 f3a,4 f3e,0 f71,5 f7f,0 f80,5 f85,0 f86,5 f88,0 f8d,5 fbe,0 fc6,5 fc7,0 102d,5",
  "1031,0 1032,5 1038,0 1039,5 103b,0 103d,5 103f,0 1058,5 105a,0 105e,5 1061,0 1071,5 1075,0",
  "1082,5 1083,0 1085,5 1087,0 108d,5 108e,0 109d,5 109e,0 135d,5 1360,0 1390,4 13a0,0 1400,4",
  "1401,0 169b,4 16a0,0 1712,5 1715,0 1732,5 1734,0 1752,5 1760,0 1772,5 1780,0 17b7,5 17be,0",
  "17c6,5 17c7,0 17c9,5 17d4,0 17db,4 17dc,0 17dd,5 17e0,0 17f0,4 1810,0 1885,5 1887,0 18a9,5",
  "18aa,0 1920,5 1923,0 1927,5 1929,0 1932,5 1933,0 1939,5 1940,4 1946,0 19de,4 1a00,0 1a17,5",
  "1a19,0 1a1b,5 1a1e,0 1a56,5 1a57,0 1a58,5 1a61,0 1a62,5 1a63,0 1a65,5 1a6d,0 1a73,5 1a80,0",
  "1ab0,5 1b04,0 1b34,5 1b35,0 1b36,5 1b3b,0 1b3c,5 1b3d,0 1b42,5 1b43,0 1b6b,5 1b74,0 1b80,5",
  "1b82,0 1ba2,5 1ba6,0 1ba8,5 1baa,0 1bab,5 1bae,0 1be6,5 1be7,0 1be8,5 1bea,0 1bed,5 1bee,0",
  "1bef,5 1bf2,0 1c2c,5 1c34,0 1c36,5 1c3b,0 1cd0,5 1cd3,0 1cd4,5 1ce1,0 1ce2,5 1ce9,0 1ced,5",
  "1cee,0 1cf4,5 1cf5,0 1cf8,5 1cfa,0 1dc0,5 1e01,0 200c,4 20c1,0 20d0,5 2104,4 214e,0 218a,4",
  "2336,0 237b,4 2395,0 2396,4 2427,0 2440,4 26ac,0 26ad,4 2800,0 2900,4 2b96,0 2b97,4 2c30,0",
  "2ce5,4 2cec,0 2cef,5 2cf3,0 2cf9,4 2d00,0 2d7f,5 2d80,0 2de0,5 2e00,4 3005,0 3008,4 3021,0",
  "302a,5 302e,0 3030,4 3031,0 3037,4 303b,0 303d,4 3041,0 3099,5 309d,0 30a0,4 30a1,0 30fb,4",
  "30fc,0 31c0,4 31e4,0 4dc0,4 4e00,0 a490,4 a4d0,0 a60d,4 a610,0 a66f,5 a673,4 a674,5 a67e,4",
  "a681,0 a69e,5 a6a0,0 a6f0,5 a6f2,0 a700,4 a723,0 a788,4 a789,0 a802,5 a803,0 a806,5 a807,0",
  "a80b,5 a80c,0 a825,5 a827,0 a828,4 a82c,5 a830,0 a838,4 a840,0 a874,4 a880,0 a8c4,5 a8ce,0",
  "a8e0,5 a8f2,0 a8ff,5 a900,0 a926,5 a92e,0 a947,5 a952,0 a980,5 a983,0 a9b3,5 a9b4,0 a9b6,5",
  "a9ba,0 a9bc,5 a9be,0 a9e5,5 a9e6,0 aa29,5 aa2f,0 aa31,5 aa33,0 aa35,5 aa40,0 aa43,5 aa44,0",
  "aa4c,5 aa4d,0 aa7c,5 aa7d,0 aab0,5 aab1,0 aab2,5 aab5,0 aab7,5 aab9,0 aabe,5 aac0,0 aac1,5",
  "aac2,0 aaec,5 aaee,0 aaf6,5 ab01,0 ab6a,4 abc0,0 abe5,5 abe6,0 abe8,5 abe9,0 abed,5 abf0,0",
  "fb1e,5 fbb2,1 fd3e,4 fd90,1 fdcf,4 fe20,5 fe45,4 fe73,1 10000,0 10101,4 10102,0 10140,4",
  "1018d,0 10190,4 101d0,0 101fd,5 10280,0 102e0,5 102e1,2 10300,0 10376,5 10380,0 10800,1",
  "1091f,4 10920,1 10a01,5 10a10,1 10a38,5 10a40,1 10ae5,5 10aeb,1 10b39,4 10b40,1 10d24,5",
  "10d30,3 10d40,1 10d69,5 10d6e,1 10e60,3 10e80,1 10eab,5 10ead,1 10efa,5 10f00,1 10f46,5",
  "10f51,1 10f82,5 10f86,1 11000,0 11001,5 11002,0 11038,5 11047,0 11052,4 11066,0 11070,5",
  "11071,0 11073,5 11075,0 1107f,5 11082,0 110b3,5 110b7,0 110b9,5 110bb,0 110c2,5 110d0,0",
  "11100,5 11103,0 11127,5 1112c,0 1112d,5 11136,0 11173,5 11174,0 11180,5 11182,0 111b6,5",
  "111bf,0 111c9,5 111cd,0 111cf,5 111d0,0 1122f,5 11232,0 11234,5 11235,0 11236,5 11238,0",
  "1123e,5 1123f,0 11241,5 11280,0 112df,5 112e0,0 112e3,5 112f0,0 11300,5 11302,0 1133b,5",
  "1133d,0 11340,5 11341,0 11366,5 11380,0 113b8,5 113d1,0 113d2,5 113d3,0 113e1,5 11400,0",
  "11438,5 11440,0 11442,5 11445,0 11446,5 11447,0 1145e,5 1145f,0 114b3,5 114b9,0 114ba,5",
  "114bb,0 114bf,5 114c1,0 114c2,5 114c4,0 115b2,5 115b8,0 115bc,5 115be,0 115bf,5 115c1,0",
  "115dc,5 11600,0 11633,5 1163b,0 1163d,5 1163e,0 1163f,5 11641,0 11660,4 11680,0 116ab,5",
  "116ac,0 116ad,5 116ae,0 116b0,5 116b6,0 116b7,5 116b8,0 1171d,5 11720,0 11722,5 11726,0",
  "11727,5 11730,0 1182f,5 11838,0 11839,5 1183b,0 1193b,5 1193d,0 1193e,5 1193f,0 11943,5",
  "11944,0 119d4,5 119dc,0 119e0,5 119e1,0 11a01,5 11a07,0 11a09,5 11a0b,0 11a33,5 11a39,0",
  "11a3b,5 11a3f,0 11a47,5 11a50,0 11a51,5 11a57,0 11a59,5 11a5c,0 11a8a,5 11a97,0 11a98,5",
  "11a9a,0 11b60,5 11bc0,0 11c30,5 11c3e,0 11c92,5 11ca9,0 11caa,5 11cb1,0 11cb2,5 11cb4,0",
  "11cb5,5 11d00,0 11d31,5 11d46,0 11d47,5 11d50,0 11d90,5 11d93,0 11d95,5 11d96,0 11d97,5",
  "11d98,0 11ef3,5 11ef5,0 11f00,5 11f02,0 11f03,5 11f04,0 11f34,5 11f43,0 11f5a,5 11fb0,0",
  "11fd5,4 11fff,0 13440,5 13441,0 13447,5 13460,0 1611e,5 16130,0 16af0,5 16af5,0 16b30,5",
  "16b37,0 16f4f,5 16f50,0 16f8f,5 16f93,0 16fe2,4 16fe3,0 16fe4,5 16ff0,0 1bc9d,5 1bc9f,0",
  "1cf00,5 1cf50,0 1d167,5 1d16a,0 1d17b,5 1d183,0 1d185,5 1d18c,0 1d1aa,5 1d1ae,0 1d1e9,4",
  "1d242,5 1d245,4 1d2c0,0 1d300,4 1d360,0 1da00,5 1da37,0 1da3b,5 1da6d,0 1da75,5 1da76,0",
  "1da84,5 1da85,0 1da9b,5 1df00,0 1e000,5 1e100,0 1e130,5 1e137,0 1e2ae,5 1e2c0,0 1e2ec,5",
  "1e2f0,0 1e2ff,4 1e4d0,0 1e4ec,5 1e4f0,0 1e5ee,5 1e5f0,0 1e6e3,5 1e6e4,0 1e6e6,5 1e6e7,0",
  "1e6ee,5 1e6f0,0 1e6f5,5 1e6fe,0 1e800,1 1e8d0,5 1e922,1 1e944,5 1e94b,1 1eef0,4 1f150,0",
  "1f16d,4 1f170,0 1f1ad,4 1f1e6,0 1f260,4 1f6d8,0 1f6dd,4 1f774,0 1f780,4 1f7d9,0 1f7e0,4",
  "1f8b2,0 1f900,4 1fa54,0 1fa60,4 1fa75,0 1fa78,4 1fa87,0 1fa90,4 1faad,0 1fab0,4 1fabb,0",
  "1fac0,4 1fac6,0 1fad0,4 1fada,0 1fae0,4 1fae8,0 1faf0,4 1faf7,0 1fb00,4 1fbcb,0"]

def direction (c : Char) : Direction :=
  match directions.row? c.toNat with
  | some [_, 1] => .rightToLeft
  | some [_, 2] => .europeanNumber
  | some [_, 3] => .arabicNumber
  | some [_, 4] => .neutral
  | some [_, 5] => .nonspacing
  | some [_, 6] => .blank
  | _ => .leftToRight

end EventFeed.Unicode
