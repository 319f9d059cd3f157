import EventFeed.Json.Printer
import EventFeed.Text.Quoted

/-! # Reading values into types

A decoder takes a value to a typed result or says what stood in the way: what was found and what was
expected there. The first thing that does not fit, in the order of the keys, decides the error.
-/

namespace EventFeed

/-- What stands where something else was expected. -/
inductive Found where
  | null
  | bool (value : Bool)
  | int (value : Int)
  /-- An integer beyond 64 bits. -/
  | wideInt (value : Int)
  /-- A floating-point number with its text. -/
  | real (text : String)
  | str (value : String)
  | seq
  | map
  deriving DecidableEq, Repr

def Found.describe : Found → String
  | null => "null"
  | bool b => s!"boolean `{b}`"
  | int n => s!"integer `{n}`"
  | wideInt n => if n < 2 ^ 127 then s!"integer `{n}` as i128" else s!"integer `{n}` as u128"
  | real t => s!"floating point `{t}`"
  | str s => "string " ++ Text.quote s
  | seq => "sequence"
  | map => "map"

inductive DecodeError where
  | invalidType (found : Found) (expected : String)
  | invalidValue (found : Found) (expected : String)
  | invalidLength (length : Nat) (expected : String)
  | unknownVariant (name : String) (expected : List String)
  | unknownField (name : String) (expected : List String)
  | missingField (name : String)
  | duplicateField (name : String)
  /-- None of the alternatives of the named type fits. -/
  | noVariant (type : String)
  | custom (message : String)
  deriving DecidableEq, Repr

namespace DecodeError

def oneOf (names : List String) : String :=
  match names.map (fun n => s!"`{n}`") with
  | [] => ""
  | [a] => a
  | [a, b] => s!"{a} or {b}"
  | all => "one of " ++ ", ".intercalate all

def message : DecodeError → String
  | invalidType found expected => s!"invalid type: {found.describe}, expected {expected}"
  | invalidValue found expected => s!"invalid value: {found.describe}, expected {expected}"
  | invalidLength length expected => s!"invalid length {length}, expected {expected}"
  | unknownVariant name expected => s!"unknown variant `{name}`, expected {oneOf expected}"
  | unknownField name expected => s!"unknown field `{name}`, expected {oneOf expected}"
  | missingField name => s!"missing field `{name}`"
  | duplicateField name => s!"duplicate field `{name}`"
  | noVariant type => s!"data did not match any variant of untagged enum {type}"
  | custom message => message

end DecodeError

namespace Found

/-- An integer of a type with the given bounds. -/
def toIntIn (low high : Int) (expected : String) (found : Found) : Except DecodeError Int :=
  match found with
  | int n => if low ≤ n ∧ n ≤ high then .ok n else .error (.invalidValue found expected)
  | _ => .error (.invalidType found expected)

def toUnsigned (bits : Nat) (found : Found) : Except DecodeError Nat := do
  return (← found.toIntIn 0 (2 ^ bits - 1) s!"u{bits}").toNat

def toSigned (bits : Nat) (found : Found) : Except DecodeError Int :=
  found.toIntIn (-2 ^ (bits - 1)) (2 ^ (bits - 1) - 1) s!"i{bits}"

def toText (found : Found) : Except DecodeError String :=
  match found with
  | str s => .ok s
  | _ => .error (.invalidType found "a string")

end Found

namespace Json

/-- What a value is when something else was expected. -/
def found : Json → Found
  | null => .null
  | bool b => .bool b
  | int n => .int n
  | real x => .real (String.ofList (DecimalStyle.data.render x))
  | str s => .str s
  | arr _ => .seq
  | obj _ => .map

abbrev Decoder (α : Type) := Json → Except DecodeError α

namespace Decoder

def mismatch (v : Json) (expected : String) : Except DecodeError α :=
  .error (.invalidType v.found expected)

def bool : Decoder Bool
  | .bool b => .ok b
  | v => mismatch v "a boolean"

def unsigned (bits : Nat) : Decoder Nat := fun v => v.found.toUnsigned bits

def signed (bits : Nat) : Decoder Int := fun v => v.found.toSigned bits

def text : Decoder String := fun v => v.found.toText

def unit : Decoder Unit
  | .null => .ok ()
  | v => mismatch v "unit"

def optional (item : Decoder α) : Decoder (Option α)
  | .null => .ok none
  | v => some <$> item v

def list (item : Decoder α) : Decoder (List α)
  | .arr items => items.mapM item
  | v => mismatch v "a sequence"

def map (item : Decoder α) : Decoder (List (String × α))
  | .obj members => members.mapM fun (k, v) => do return (k, ← item v)
  | v => mismatch v "a map"

/-- A list of exactly two items. -/
def pairOf (expected : String) (first : Decoder α) (second : Decoder β) (items : List Json) :
    Except DecodeError (α × β) :=
  match items with
  | [] => .error (.invalidLength 0 expected)
  | [a] => do
    let _ ← first a
    .error (.invalidLength 1 expected)
  | a :: b :: rest => do
    let a ← first a
    let b ← second b
    if rest.isEmpty then return (a, b)
    else .error (.invalidLength items.length "fewer elements in array")

def pair (first : Decoder α) (second : Decoder β) : Decoder (α × β)
  | .arr items => pairOf "a tuple of size 2" first second items
  | v => mismatch v "a tuple of size 2"

/-- One of several names: a string, or an object with that name as its only key. -/
def oneOf (names : List (String × α)) : Decoder α
  | .str s => pick s
  | .obj [(k, v)] => do
    let a ← pick k
    let () ← unit v
    return a
  | .obj _ => .error (.invalidValue .map "map with a single key")
  | v => mismatch v "string or map"
where
  pick (s : String) : Except DecodeError α :=
    match names.lookup s with
    | some a => .ok a
    | none => .error (.unknownVariant s (names.map (·.1)))

end Decoder

end Json

end EventFeed
