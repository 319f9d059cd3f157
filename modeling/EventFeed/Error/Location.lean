import EventFeed.Json.Printer

/-! # Error locations

The place in a program where an error was raised. An error text that knows its place ends with it.
-/

namespace EventFeed

structure Location where
  file : String
  line : UInt32
  column : UInt32
  deriving DecidableEq, Repr

namespace Location

def display (l : Location) : String := s!"[{l.file}:{l.line}:{l.column}]"

def text (l : Location) : String :=
  Json.recordText [("file", .str l.file), ("line", .int l.line.toNat),
    ("column", .int l.column.toNat)]

/-- A text with its location at the end. -/
def mark (l : Location) (message : String) : String := message ++ " " ++ l.display

end Location

end EventFeed
