import EventFeed.Url.Domain.Label
import EventFeed.Url.Domain.Mapping

/-! # Domain names

A domain name is a sequence of labels with dots between them. In a URL it is written in ASCII, and
names that stand for each other are written in the same way.
-/

namespace EventFeed.Url

/-- The parts of a text between separators; never an empty list. -/
def splitOn (isSeparator : Char → Bool) : List Char → List (List Char)
  | [] => [[]]
  | c :: rest =>
    if isSeparator c then [] :: splitOn isSeparator rest
    else
      match splitOn isSeparator rest with
      | [] => [[c]]
      | part :: parts => (c :: part) :: parts

namespace Domain

/-- The labels of a name. If any of them is read from right to left, all must keep one direction. -/
def labels? (cs : List Char) : Option (List Label) := do
  let labels ← (splitOn (· == '.') (Unicode.composed (mapped cs))).mapM Label.read?
  let texts := labels.map Label.text
  guard (!texts.any (·.any isRightToLeft) || texts.all keepsDirection)
  return labels

/-- The ASCII form of a name that is given as the bytes of its text. -/
def toAscii? (bytes : List UInt8) : Option (List Char) := do
  let s ← String.fromUTF8? (ByteArray.mk bytes.toArray)
  let labels ← labels? s.toList
  return List.intercalate ['.'] (labels.map Label.ascii)

end Domain

end EventFeed.Url
