import EventFeed.Unicode.Composed
import EventFeed.Unicode.Direction
import EventFeed.Unicode.Joining
import EventFeed.Unicode.Mark
import EventFeed.Url.Domain.Punycode
import EventFeed.Url.Domain.Valid

/-! # Labels of domain names -/

namespace EventFeed.Url.Domain

open Unicode (Direction Joining direction joining?)

def isAscii (c : Char) : Bool := c.toNat < 0x80

/-! ## Joiners -/

/-- Whether the nearest character that is not transparent connects in one of two ways. -/
def reachesJoining (either : Joining) : List Char → Bool
  | [] => false
  | c :: rest =>
    match joining? c with
    | some .transparent => reachesJoining either rest
    | some j => j == either || j == .dual
    | none => false

/-- Whether every joiner has a reason to stand where it does: it follows a virama, or it keeps two
letters apart that would connect. The characters before come nearest first. -/
def joinersAllowed : List Char → List Char → Bool
  | _, [] => true
  | before, c :: rest =>
    let allowed :=
      if c == '\u200c' || c == '\u200d' then
        (before.head?.map Unicode.isVirama).getD false
          || (c == '\u200c' && reachesJoining .left before && reachesJoining .right rest)
      else true
    allowed && joinersAllowed (c :: before) rest

/-! ## Directions -/

/-- Whether a character is read from right to left, so that the name it stands in must keep to one
direction in every label. -/
def isRightToLeft (c : Char) : Bool :=
  direction c == .rightToLeft || direction c == .arabicNumber

/-- Whether a label keeps one direction: it starts with a letter, and only what adapts to that
direction follows. -/
def keepsDirection (label : List Char) : Bool :=
  match label.map direction with
  | [] => true
  | first :: rest =>
    let body := (rest.reverse.dropWhile (· == .nonspacing)).reverse
    let last := body.getLast?
    match first with
    | .leftToRight =>
      body.all (fun d => [.leftToRight, .europeanNumber, .neutral, .nonspacing].contains d)
        && last.all (fun d => [.leftToRight, .europeanNumber].contains d)
    | .rightToLeft =>
      body.all (fun d =>
          [.rightToLeft, .arabicNumber, .europeanNumber, .neutral, .nonspacing].contains d)
        && last.all (fun d => [.rightToLeft, .arabicNumber, .europeanNumber].contains d)
        && !(body.contains .europeanNumber && body.contains .arabicNumber)
    | _ => false

/-! ## Reading a label -/

/-- A label as it is read and as it is written in ASCII. -/
structure Label where
  text : List Char
  ascii : List Char
  deriving DecidableEq, Repr

/-- The start of a label that is written in ASCII but holds other characters. -/
def encodedMark : List Char := ['x', 'n', '-', '-']

/-- The longest text that is decoded. -/
def decodeLimit : Nat := 2000

/-- The longest label that is encoded. -/
def encodeLimit : Nat := 1000

/-- Whether the characters of a label may stand where they do. -/
def wellFormed (label : List Char) : Bool :=
  label.all isValid && !(label.head?.map Unicode.isMark).getD false && joinersAllowed [] label

/-- The characters that an encoded label holds: at least one beyond ASCII, in their composed form.
-/
def decodeLabel? (code : List Char) : Option (List Char) := do
  guard (code.all isAscii && code.length ≤ decodeLimit)
  let text ← Punycode.decode? code
  guard (!text.all isAscii && Unicode.composed text == text && !encodedMark.isPrefixOf text)
  return text

/-- Reads a label that has been mapped and composed. -/
def Label.read? (cs : List Char) : Option Label := do
  let label : Label ←
    if encodedMark.isPrefixOf cs then
      (decodeLabel? (cs.drop encodedMark.length)).map (⟨·, cs⟩)
    else if cs.all isAscii then some ⟨cs, cs⟩
    else if cs.length ≤ encodeLimit then some ⟨cs, encodedMark ++ Punycode.encode cs⟩
    else none
  guard (wellFormed label.text && !label.ascii.any isForbidden)
  return label

end EventFeed.Url.Domain
