import EventFeed.Files.Content
import EventFeed.Files.Path

/-! # File trees

Files and directories as they matter to a program that reads some files and creates directories.
-/

namespace EventFeed

structure FileTree where
  /-- The directory to which relative paths refer. -/
  working : Path
  /-- What stands under the names that lead to it from the root. -/
  entries : List (List (List UInt8) × FileContent) := []

namespace FileTree

def content (t : FileTree) (p : Path) : FileContent :=
  (t.entries.lookup (p.resolve t.working)).getD .absent

def insert (t : FileTree) (p : Path) (c : FileContent) : FileTree :=
  { t with entries := (p.resolve t.working, c) :: t.entries }

def isFile (t : FileTree) (names : List (List UInt8)) : Bool :=
  match t.entries.lookup names with
  | some (.bytes _) => true
  | _ => false

/-- Creates a directory with all directories above it. A file stands in the way at the place of the
directory itself or above it. -/
def createDirs (t : FileTree) (p : Path) : Except FileFault FileTree :=
  let names := p.resolve t.working
  if t.isFile names then .error .alreadyExists
  else if (List.range names.length).any fun n => t.isFile (names.take n) then .error .notADirectory
  else .ok (t.insert p .directory)

end FileTree

end EventFeed
