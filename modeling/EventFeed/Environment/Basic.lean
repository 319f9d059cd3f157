/-! # Environments

The variables of a process. A value is a string of bytes; one that is not valid UTF-8 has no text,
and where text is wanted its variable counts as unset.
-/

namespace EventFeed

def decodeText (bytes : ByteArray) : Option String := String.fromUTF8? bytes

/-- Variables by name; the first entry of a name counts. -/
structure Environment where
  entries : List (String × ByteArray) := []

namespace Environment

def bytes? (env : Environment) (name : String) : Option ByteArray :=
  (env.entries.find? fun e => e.1 == name).map (·.2)

def text? (env : Environment) (name : String) : Option String := (env.bytes? name).bind decodeText

def insert (env : Environment) (name : String) (value : ByteArray) : Environment :=
  ⟨(name, value) :: env.entries.filter fun e => e.1 != name⟩

/-- Sets a variable unless it already has a text. -/
def adopt (env : Environment) (name value : String) : Environment :=
  if (env.text? name).isSome then env else env.insert name value.toUTF8

/-- Adopts assignments one after another. -/
def adoptAll (env : Environment) (assignments : List (String × String)) : Environment :=
  assignments.foldl (fun env (name, value) => env.adopt name value) env

/-- One variable, given as its name and its value with an equals sign between them. -/
def binding? (bytes : List UInt8) : Option (String × ByteArray) := do
  let name := bytes.takeWhile (· != 0x3d)
  let text ← decodeText ⟨name.toArray⟩
  return (text, ⟨(bytes.drop (name.length + 1)).toArray⟩)

/-- Reads the variables of a process from a list in which each is ended by a zero byte; `current`
holds the bytes of the variable under way, latest first. -/
def ofBlock (current : List UInt8) : List UInt8 → Environment
  | [] => ⟨[]⟩
  | b :: rest =>
    if b = 0 then ⟨(binding? current.reverse).toList ++ (ofBlock [] rest).entries⟩
    else ofBlock (b :: current) rest

end Environment

end EventFeed
