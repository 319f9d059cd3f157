import EventFeed.Environment.Basic

/-! # Files

What stands under a path, and what can go wrong when it is used.
-/

namespace EventFeed

inductive FileContent where
  | absent
  | directory
  | bytes (content : ByteArray)

inductive FileFault where
  | notFound
  | alreadyExists
  | notADirectory
  | isADirectory
  | accessDenied
  | notText
  deriving DecidableEq, Repr

def FileFault.message : FileFault → String
  | notFound => "No such file or directory (os error 2)"
  | alreadyExists => "File exists (os error 17)"
  | notADirectory => "Not a directory (os error 20)"
  | isADirectory => "Is a directory (os error 21)"
  | accessDenied => "Permission denied (os error 13)"
  | notText => "stream did not contain valid UTF-8"

/-- The text of a file; `none` when there is no file. -/
def FileContent.text : FileContent → Except FileFault (Option String)
  | absent => .ok none
  | directory => .error .isADirectory
  | bytes b =>
    match decodeText b with
    | some s => .ok (some s)
    | none => .error .notText

end EventFeed
