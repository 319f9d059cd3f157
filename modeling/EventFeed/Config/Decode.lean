import EventFeed.Config.Basic
import EventFeed.Json.Parser
import EventFeed.Toml.Table

/-! # Reading a configuration

A configuration is a record of its fields. Fields that are missing keep their defaults; other keys
are refused. It is read from a data value, from data text, and from the table of a file.
-/

namespace EventFeed.Config

/-- What is expected where a configuration should stand. -/
def expectation : String := "struct ManagerConfig"

def fieldNames : List String := Field.all.map Field.name

def unknownField (name : String) : DecodeError := .unknownField name fieldNames

/-- Assigns members one after another. -/
def ofFound (members : List (String × Found)) : Except DecodeError Config :=
  members.foldlM (fun c (name, found) =>
    match Field.ofName? name with
    | none => .error (unknownField name)
    | some field => c.assign field found) {}

/-- Assigns list items to the fields in the order of declaration. -/
def ofItems (items : List Json) : Except DecodeError Config := do
  let c ← (Field.all.zip items).foldlM (fun c (field, v) => c.assign field v.found) {}
  if Field.all.length < items.length then
    throw (.invalidLength items.length "fewer elements in array")
  return c

def decode : Json.Decoder Config
  | .obj members => ofFound (members.map fun (k, v) => (k, v.found))
  | .arr items => ofItems items
  | v => Json.Decoder.mismatch v expectation

/-! ## Data text -/

inductive TextError where
  | malformed (error : Json.ReadError)
  | shape (error : DecodeError) (position : Json.Position)
  deriving DecidableEq, Repr

def TextError.message : TextError → String
  | malformed e => e.message
  | shape e p => e.message ++ p.suffix

open Json (Cursor ReadError)

def lift (r : Except ReadError α) : Except TextError α := r.mapError .malformed

/-- Looks at a value for a field: a scalar is read, a list or an object is only recognised. -/
def readFound (c : Cursor) : Except ReadError (Found × Cursor) := do
  match c.peek? with
  | some 'n' => return (.null, ← c.word ['n', 'u', 'l', 'l'])
  | some 't' => return (.bool true, ← c.word ['t', 'r', 'u', 'e'])
  | some 'f' => return (.bool false, ← c.word ['f', 'a', 'l', 's', 'e'])
  | some '"' =>
    let (s, c) ← Json.Strings.read c.bump
    return (.str s, c)
  | some '[' => return (.seq, c)
  | some '{' => return (.map, c)
  | some ch =>
    if ch = '-' || Json.Numeral.isDigit ch then
      let (n, c) ← Json.Numeral.read c
      return (n.toJson.found, c)
    else c.refuse .expectedValue
  | none => c.refuse .endInValue

def readField (config : Config) (field : Field) (c : Cursor) :
    Except TextError (Config × Cursor) := do
  let (found, c) ← lift (readFound c.skipSpace)
  match config.assign field found with
  | .ok config => return (config, c)
  | .error e => throw (.shape e c.position)

/-- The place to which an error in a key is attributed: the end of the object, if it stands there,
and otherwise the end of the key and the spaces behind it. -/
def keyErrorPosition (c : Cursor) : Json.Position :=
  let c := c.skipSpace
  match c.peek? with
  | some '}' => c.bump.position
  | _ => c.position

/-- Reads the members of an object up to its closing brace; each takes one unit of fuel. -/
def readMembers : Nat → Bool → List Field → Config → Cursor → Except TextError (Config × Cursor)
  | 0, _, _, _, c => lift (c.refuse .endInObject)
  | fuel + 1, first, seen, config, c => do
    let c := c.skipSpace
    match c.peek? with
    | none => lift (c.refuse .endInObject)
    | some '}' => return (config, c.bump)
    | some ch =>
      let c ← if first then pure c
        else if ch = ',' then
          let c := c.bump.skipSpace
          match c.peek? with
          | none => lift (c.refuse .endInValue)
          | some '}' => lift (c.refuse .trailingComma)
          | some _ => pure c
        else lift (c.refuse .expectedCommaOrBrace)
      if c.peek? ≠ some '"' then lift (c.refuse .keyNotString)
      else
        let (key, c) ← lift (Json.Strings.read c.bump)
        match Field.ofName? key with
        | none => throw (.shape (unknownField key) (keyErrorPosition c))
        | some field =>
          if field ∈ seen then throw (.shape (.duplicateField key) (keyErrorPosition c))
          else
            let c := c.skipSpace
            match c.peek? with
            | none => lift (c.refuse .endInObject)
            | some ':' =>
              let (config, c) ← readField config field c.bump
              readMembers fuel false (field :: seen) config c
            | some _ => lift (c.refuse .expectedColon)

/-- Reads the items of a list, one for each field, up to its closing bracket. -/
def readItems : Bool → List Field → Config → Cursor → Except TextError (Config × Cursor)
  | _, [], config, c => do
    let c := c.skipSpace
    match c.peek? with
    | none => lift (c.refuse .endInList)
    | some ']' => return (config, c.bump)
    | some ',' =>
      let c := c.bump.skipSpace
      match c.peek? with
      | some ']' => lift (c.refuse .trailingComma)
      | _ => lift (c.refuse .trailingCharacters)
    | some _ => lift (c.refuse .trailingCharacters)
  | first, field :: rest, config, c => do
    let c := c.skipSpace
    match c.peek? with
    | none => lift (c.refuse .endInList)
    | some ']' => return (config, c.bump)
    | some ch =>
      let c ← if first then pure c
        else if ch = ',' then
          let c := c.bump.skipSpace
          match c.peek? with
          | none => lift (c.refuse .endInValue)
          | some ']' => lift (c.refuse .trailingComma)
          | some _ => pure c
        else lift (c.refuse .expectedCommaOrBracket)
      let (config, c) ← readField config field c
      readItems false rest config c

/-- Reads data text: an object with some of the fields, or a list of the first of them. -/
def parse (s : String) : Except TextError Config := do
  let c := (Cursor.ofString s).skipSpace
  let (config, c) ← match c.peek? with
    | some '{' => readMembers (c.rest.length + 1) true [] {} c.bump
    | some '[' => readItems true Field.all {} c.bump
    | _ => do
      let (found, c) ← lift (readFound c)
      throw (.shape (.invalidType found expectation) c.position)
  lift (Json.finishText c)
  return config

/-! ## Configuration files -/

/-- What a value of a file is. -/
def foundInFile : Toml.Value → Except DecodeError Found
  | .scalar (.text s) => .ok (.str s)
  | .scalar (.bool b) => .ok (.bool b)
  | .scalar (.integer n) =>
    if Json.minInt ≤ n ∧ n ≤ Json.maxInt then .ok (.int n)
    else if -2 ^ 127 ≤ n ∧ n < 2 ^ 128 then .ok (.wideInt n)
    else .error (.custom "integer number overflowed")
  | .scalar (.real x) => .ok (.real x.text)
  | .scalar .dateTime => .ok .map
  | .array => .ok .seq
  | .tables _ => .ok .seq
  | .table _ _ => .ok .map

/-- An error in a file, with the stretch it is about. -/
structure FileError where
  message : String
  span : Toml.Span
  deriving DecidableEq, Repr

/-- Assigns the members of the table of a file, in the order of their names. -/
def ofTable (members : Toml.Members) : Except FileError Config :=
  members.foldlM (fun c ((name, keySpan, valueSpan), v) =>
    match Field.ofName? name with
    | none => .error ⟨(unknownField name).message, keySpan⟩
    | some field =>
      match foundInFile v >>= c.assign field with
      | .error e => .error ⟨e.message, valueSpan⟩
      | .ok c => .ok c) {}

def ofFileText (source : String) : Except FileError Config :=
  match Toml.parse source with
  | .error flaw => .error ⟨flaw.fault.message, flaw.span⟩
  | .ok members => ofTable members

end EventFeed.Config
