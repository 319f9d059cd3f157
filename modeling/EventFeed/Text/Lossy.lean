/-! # Bytes shown as text

Bytes that should be UTF-8 but need not be. Each stretch of bytes that starts like a character and
does not go on as one is shown as a single replacement character.
-/

namespace EventFeed.Text

/-- What must follow the first byte of a character of several bytes: the range of the second byte,
and the number of further bytes behind it. -/
def continuation? (b : UInt8) : Option (UInt8 × UInt8 × Nat) :=
  if 0xc2 ≤ b ∧ b ≤ 0xdf then some (0x80, 0xbf, 0)
  else if b = 0xe0 then some (0xa0, 0xbf, 1)
  else if b = 0xed then some (0x80, 0x9f, 1)
  else if 0xe1 ≤ b ∧ b ≤ 0xef then some (0x80, 0xbf, 1)
  else if b = 0xf0 then some (0x90, 0xbf, 2)
  else if 0xf1 ≤ b ∧ b ≤ 0xf3 then some (0x80, 0xbf, 2)
  else if b = 0xf4 then some (0x80, 0x8f, 2)
  else none

def isContinuation (b : UInt8) : Bool := 0x80 ≤ b && b ≤ 0xbf

/-- The number of bytes of the character, or of the start of one, at the front, and whether it is a
whole character. -/
def leading (b : UInt8) (rest : List UInt8) : Nat × Bool :=
  if b < 0x80 then (1, true)
  else
    match continuation? b, rest with
    | some (low, high, more), c :: rest =>
      if low ≤ c ∧ c ≤ high then
        let following := ((rest.take more).takeWhile isContinuation).length
        (2 + following, following == more)
      else (1, false)
    | _, _ => (1, false)

/-- The text of bytes; each character takes at least one unit of fuel. -/
def lossyChars : Nat → List UInt8 → List Char
  | 0, _ => []
  | _, [] => []
  | fuel + 1, b :: rest =>
    let (n, whole) := leading b rest
    let shown := if whole then String.fromUTF8? ⟨((b :: rest).take n).toArray⟩ else none
    ((shown.map String.toList).getD ['\ufffd']) ++ lossyChars fuel ((b :: rest).drop n)

def lossy (bytes : ByteArray) : String := String.ofList (lossyChars bytes.size bytes.toList)

end EventFeed.Text
