import EventFeed.Environment.Assignment
import EventFeed.Environment.Lines

/-! # Variable files

A variable file is read line by line up to its first bad line. Its assignments set the variables
that are not set yet, those in front of a bad line included; but only a file without a bad line
counts as loaded. The file of the working directory comes first, and the one beside the program is
looked at when the first is missing or bad.
-/

namespace EventFeed.Environment

/-- What a file says: its assignments in order, and whether every line was good. -/
structure FileReading where
  assignments : List (String × String) := []
  complete : Bool := true
  deriving DecidableEq, Repr

/-- Reads lines. Each assignment is in effect for the lines behind it. -/
def readLines (scope : Scope) : List (Option (List Char)) → FileReading
  | [] => {}
  | none :: _ => { complete := false }
  | some line :: rest =>
    match Line.read scope line with
    | .blank => readLines scope rest
    | .malformed => { complete := false }
    | .assignment name value =>
      let scope : Scope := ⟨scope.env.adopt name value, scope.earlier ++ [(name, value)]⟩
      let reading := readLines scope rest
      { reading with assignments := (name, value) :: reading.assignments }

def readFile (env : Environment) (content : ByteArray) : FileReading :=
  readLines { env } (fileLines content)

/-- The files in which variables are looked for. -/
inductive FilePlace where
  | workingDirectory
  | besideProgram
  deriving DecidableEq, Repr

/-- Takes over the variables of the files. The result tells which of them counts as loaded. -/
def loadFiles (env : Environment) (working beside : Option ByteArray) :
    Option FilePlace × Environment :=
  let first := (working.map env.readFile).getD { complete := false }
  let env := env.adoptAll first.assignments
  if first.complete then (some .workingDirectory, env)
  else
    match beside with
    | none => (none, env)
    | some content =>
      let second := env.readFile content
      (if second.complete then some .besideProgram else none, env.adoptAll second.assignments)

end EventFeed.Environment
