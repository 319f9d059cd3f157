import EventFeed.Text.Lossy

/-! # Paths

A path is a string of bytes, in which slashes set the names of directories apart.
-/

namespace EventFeed

abbrev Path := ByteArray

namespace Path

def slash : UInt8 := 0x2f

def ofText (s : String) : Path := s.toUTF8

def display (p : Path) : String := Text.lossy p

def isAbsolute (p : Path) : Bool := p.toList.head? == some slash

def join (p : Path) (entry : String) : Path :=
  if p.isEmpty || p.toList.getLast? == some slash then p ++ entry.toUTF8
  else p ++ ("/" ++ entry).toUTF8

def splitNames : List UInt8 → List (List UInt8)
  | [] => [[]]
  | b :: rest =>
    if b = slash then [] :: splitNames rest
    else
      match splitNames rest with
      | [] => [[b]]
      | name :: names => (b :: name) :: names

/-- Goes from a directory, given by the names that lead to it, along further names. A dot stays
where it is, and two dots lead back. -/
def walk (dir : List (List UInt8)) (names : List (List UInt8)) : List (List UInt8) :=
  names.foldl (fun dir name =>
    if name = [] ∨ name = [0x2e] then dir
    else if name = [0x2e, 0x2e] then dir.dropLast
    else dir ++ [name]) dir

/-- The names that lead from the root to a path, which may be relative to a working directory. -/
def resolve (p : Path) (working : Path) : List (List UInt8) :=
  let start := if p.isAbsolute then [] else walk [] (splitNames working.toList)
  walk start (splitNames p.toList)

end Path

end EventFeed
