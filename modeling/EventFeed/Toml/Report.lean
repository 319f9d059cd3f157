import EventFeed.Toml.Statement

/-! # Reports on a configuration file

A message about a stretch of a file shows the line where the stretch starts and marks it.
-/

namespace EventFeed.Toml

/-- The line of a byte offset, from zero, the characters before it on that line, and the line. -/
def locate (offset : Nat) : Nat → Nat → List Char → Nat × Nat × List Char
  | line, column, cs =>
    let text := cs.takeWhile (· != '\n')
    go offset line column text cs
where
  go (left line column : Nat) (text : List Char) : List Char → Nat × Nat × List Char
    | [] => (line, column + left, text)
    | c :: rest =>
      if left = 0 then (line, column, text)
      else if c = '\n' then go (left - 1) (line + 1) 0 (rest.takeWhile (· != '\n')) rest
      else go (left - c.utf8Size) line (column + 1) text rest

def byteLength (cs : List Char) : Nat := cs.foldl (fun n c => n + c.utf8Size) 0

/-- A message with the line it is about. -/
def report (source : String) (span : Span) (message : String) : String :=
  let (line, column, text) := locate span.start 0 0 source.toList
  let number := toString (line + 1)
  let gutter := "".pushn ' ' (number.length + 1)
  let marked := min (span.stop - span.start) (byteLength text - column)
  s!"TOML parse error at line {number}, column {column + 1}\n"
    ++ gutter ++ "|\n"
    ++ number ++ " | " ++ String.ofList text ++ "\n"
    ++ gutter ++ "|" ++ "".pushn ' ' (column + 1) ++ "".pushn '^' (max marked 1) ++ "\n"
    ++ message ++ "\n"

end EventFeed.Toml
