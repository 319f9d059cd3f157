/-! # Percent encoding

A character that may not stand in a part of a URL is written as its UTF-8 bytes, each as a percent
sign and two upper-case hexadecimal digits. Each part has its own set of such characters; characters
beyond ASCII and control characters belong to every set.
-/

namespace EventFeed.Url.Percent

/-- ASCII characters that must be encoded in some part. -/
abbrev Set := Char → Bool

/-- The characters encoded in every part. -/
def isControl (c : Char) : Bool := c.toNat < 0x20 || 0x7f ≤ c.toNat

def query : Set := fun c => isControl c || c == ' ' || c == '"' || c == '#' || c == '<' || c == '>'

/-- The query of a URL whose scheme is special. -/
def specialQuery : Set := fun c => query c || c == '\''

def fragment : Set := fun c =>
  isControl c || c == ' ' || c == '"' || c == '<' || c == '>' || c == '`'

def path : Set := fun c => fragment c || c == '#' || c == '?' || c == '{' || c == '}'

def userinfo : Set := fun c =>
  path c || c == '/' || c == ':' || c == ';' || c == '=' || c == '@' || c == '[' || c == '\\'
    || c == ']' || c == '^' || c == '|'

def hexDigit (n : Nat) : Char := (Nat.digitChar n).toUpper

/-- One byte as an escape. -/
def escapeByte (b : UInt8) : List Char :=
  ['%', hexDigit (b.toNat / 16), hexDigit (b.toNat % 16)]

def encodeChar (set : Set) (c : Char) : List Char :=
  if set c then (String.utf8EncodeChar c).flatMap escapeByte else [c]

def encode (set : Set) (cs : List Char) : List Char := cs.flatMap (encodeChar set)

def hexValue? (c : Char) : Option Nat :=
  if '0' ≤ c && c ≤ '9' then some (c.toNat - '0'.toNat)
  else if 'a' ≤ c && c ≤ 'f' then some (c.toNat - 'a'.toNat + 10)
  else if 'A' ≤ c && c ≤ 'F' then some (c.toNat - 'A'.toNat + 10)
  else none

/-- The bytes of a text with its escapes undone; a percent sign that starts no escape stays. -/
def decode : List Char → List UInt8
  | '%' :: a :: b :: rest =>
    match hexValue? a, hexValue? b with
    | some x, some y => UInt8.ofNat (x * 16 + y) :: decode rest
    | _, _ => String.utf8EncodeChar '%' ++ decode (a :: b :: rest)
  | c :: rest => String.utf8EncodeChar c ++ decode rest
  | [] => []
termination_by cs => cs.length

end EventFeed.Url.Percent
