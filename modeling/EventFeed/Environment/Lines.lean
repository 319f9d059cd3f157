import EventFeed.Environment.Basic
import EventFeed.Text.Blank

/-! # Lines of a variable file

A line ends at a line feed that stands outside quotes. A number sign behind a blank starts a comment
that takes up the rest of the line. A file that ends inside quotes, behind a backslash or behind a
blank has an unfinished last line.
-/

namespace EventFeed.Environment

/-- Where the end of a stretch of text stands with regard to quotes and blanks. -/
inductive Quoting where
  | complete
  | blank
  | escaped
  | single
  | singleEscaped
  | double
  | doubleEscaped
  deriving DecidableEq, Repr

namespace Quoting

/-- The effect of a character outside quotes. -/
def afterPlain : Char → Quoting
  | '\\' => escaped
  | '"' => double
  | '\'' => single
  | _ => complete

/-- The effect of a character; none if it starts a comment. -/
def after? (c : Char) : Quoting → Option Quoting
  | complete =>
    some (if Text.isBlank c && c != '\n' && c != '\r' then blank else afterPlain c)
  | blank => if c = '#' then none else some (afterPlain c)
  | escaped => some complete
  | single => some (if c = '\\' then singleEscaped else if c = '\'' then complete else single)
  | singleEscaped => some single
  | double => some (if c = '\\' then doubleEscaped else if c = '"' then complete else double)
  | doubleEscaped => some double

/-- Reads a stretch of text up to its end or to a comment. The result is the text before the comment
and, without a comment, where the end stands. -/
def scan (q : Quoting) : List Char → List Char × Option Quoting
  | [] => ([], some q)
  | c :: rest =>
    match q.after? c with
    | none => ([], none)
    | some q =>
      let (kept, last) := scan q rest
      (c :: kept, last)

end Quoting

/-- Text without the line break at its end. -/
def chomp (cs : List Char) : List Char :=
  match cs.reverse with
  | '\n' :: '\r' :: rest => rest.reverse
  | '\n' :: rest => rest.reverse
  | _ => cs

def isComment (cs : List Char) : Bool := (cs.dropWhile Text.isBlank).head? == some '#'

/-- The bytes up to each line feed, that included, and what is left at the end. -/
def splitLines : List UInt8 → List (List UInt8)
  | [] => []
  | b :: rest =>
    if b = 10 then [b] :: splitLines rest
    else
      match splitLines rest with
      | [] => [[b]]
      | line :: lines => (b :: line) :: lines

/-- Joins stretches up to a line feed into lines. A line that is no text or is unfinished is none,
and the last one. -/
def joinLines (q : Quoting) (pending : List Char) : List (Option (List Char)) →
    List (Option (List Char))
  | [] => if q = .complete then [] else [none]
  | none :: _ => [none]
  | some stretch :: rest =>
    if isComment (pending ++ stretch) then some [] :: joinLines .complete [] rest
    else
      match q.scan stretch with
      | (kept, none) => some (pending ++ kept) :: joinLines .complete [] rest
      | (_, some .complete) => some (chomp (pending ++ stretch)) :: joinLines .complete [] rest
      | (_, some q) => joinLines q (pending ++ stretch) rest

/-- The mark that may stand in front of the text of a file. -/
def byteOrderMark : List UInt8 := [0xef, 0xbb, 0xbf]

def fileLines (content : ByteArray) : List (Option (List Char)) :=
  let bytes := content.toList
  let bytes := if byteOrderMark.isPrefixOf bytes then bytes.drop byteOrderMark.length else bytes
  joinLines .complete []
    ((splitLines bytes).map fun line => (decodeText ⟨line.toArray⟩).map String.toList)

end EventFeed.Environment
