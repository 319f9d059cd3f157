import EventFeed.Toml.Statement

/-! # TOML tables

The statements of a file build one table. A key is defined once: a header opens a table that nothing
has defined yet, and a dotted key reaches only into tables that dotted keys have made.
-/

namespace EventFeed.Toml

/-- How a table came to be. -/
inductive Origin where
  /-- Opened by a header, or the table of the file itself. -/
  | header
  /-- Named on the way to a header. -/
  | path
  /-- Named on the way to a dotted key. -/
  | dotted
  /-- Written between braces. -/
  | inline
  deriving DecidableEq, Repr

/-- A value of the table of a file. -/
inductive Value where
  | scalar (value : Scalar)
  | array
  | tables (items : List (Origin × List ((String × Span × Span) × Value)))
  | table (origin : Origin) (members : List ((String × Span × Span) × Value))

abbrev Members := List ((String × Span × Span) × Value)

namespace Members

def find? (ms : Members) (name : String) : Option ((Span × Span) × Value) :=
  (List.find? (fun m => m.1.1 == name) ms).map fun m => (m.1.2, m.2)

/-- Adds a member, in the order of the names, in place of one with the same name. -/
def insert (name : String) (spans : Span × Span) (v : Value) : Members → Members
  | [] => [((name, spans), v)]
  | ((n, s), w) :: rest =>
    if name < n then ((name, spans), v) :: ((n, s), w) :: rest
    else if name = n then ((name, spans), v) :: rest
    else ((n, s), w) :: insert name spans v rest

def erase (name : String) (ms : Members) : Members := ms.filter fun m => m.1.1 != name

end Members

/-- A table under construction. -/
structure Table where
  origin : Origin
  members : Members

def keyFault (part : KeyPart) (fault : Fault) : Except Flaw α := .error ⟨fault, part.span⟩

def partName (part : KeyPart) : Except Flaw String :=
  match part.name with
  | .ok s => .ok s
  | .error fault => keyFault part fault

def pathNames (path : List KeyPart) : Except Flaw (List (String × Span)) :=
  path.mapM fun part => do return (← partName part, part.span)

/-- Changes the table at the end of a path, making the tables on the way. -/
def descend (dotted : Bool) (change : Table → Except Flaw Table) :
    List (String × Span) → Table → Except Flaw Table
  | [], t => change t
  | (name, span) :: rest, t =>
    let put (spans : Span × Span) (v : Value) : Table :=
      { t with members := t.members.insert name spans v }
    match t.members.find? name with
    | none => do
      let origin : Origin := if dotted then .dotted else .path
      let child ← descend dotted change rest ⟨origin, []⟩
      return put (span, span) (.table child.origin child.members)
    | some (spans, .table origin members) =>
      if origin = .inline then .error ⟨.malformed, span⟩
      else if dotted ∧ origin = .header then .error ⟨.duplicateKey, span⟩
      else do
        let child ← descend dotted change rest ⟨origin, members⟩
        return put spans (.table child.origin child.members)
    | some (spans, .tables items) =>
      match items.getLast? with
      | none => .error ⟨.malformed, span⟩
      | some (origin, members) => do
        let child ← descend dotted change rest ⟨origin, members⟩
        return put spans (.tables (items.dropLast ++ [(child.origin, child.members)]))
    | some _ => .error ⟨.malformed, span⟩

/-- Defines a key that is not defined yet. -/
def define (name : String) (span : Span) (valueSpan : Span) (v : Value) (t : Table) :
    Except Flaw Table :=
  match t.members.find? name with
  | some _ => .error ⟨.duplicateKey, span⟩
  | none => .ok { t with members := t.members.insert name (span, valueSpan) v }

/-- Assigns a value under a key, which may be dotted. -/
def assign (names : List (String × Span)) (valueSpan : Span) (v : Value) (t : Table) :
    Except Flaw Table :=
  match names.getLast? with
  | none => .ok t
  | some (name, span) =>
    let path := names.dropLast
    descend true (fun parent =>
      if !path.isEmpty && parent.origin != .dotted then .error ⟨.duplicateKey, span⟩
      else define name span valueSpan v parent) path t

mutual

/-- The value that a written one denotes. -/
def Value.ofRaw : RawValue → Except Flaw Value
  | .scalar (.ok s) _ => .ok (.scalar s)
  | .scalar (.error fault) span => .error ⟨fault, span⟩
  | .array items _ => do
    checkItems items
    return .array
  | .inline members _ => do
    let t ← ofMembers members ⟨.dotted, []⟩
    return .table .inline t.members

/-- Every item of a list must denote a value. -/
def checkItems : List RawValue → Except Flaw Unit
  | [] => .ok ()
  | v :: rest => do
    let _ ← Value.ofRaw v
    checkItems rest

def ofMembers : List (List KeyPart × RawValue) → Table → Except Flaw Table
  | [], t => .ok t
  | (path, v) :: rest, t => do
    let names ← pathNames path
    let value ← Value.ofRaw v
    ofMembers rest (← assign names v.span value t)

end

/-- Opens the table of a header. One that was only named on the way to others keeps its members. -/
def openTable (name : String) (span header : Span) (parent : Table) : Except Flaw Table :=
  match parent.members.find? name with
  | none =>
    let members := parent.members.insert name (span, header) (.table .header [])
    .ok { parent with members }
  | some (_, .table .path members) =>
    .ok { parent with
      members := parent.members.insert name (span, header) (.table .header members) }
  | some _ => .error ⟨.duplicateKey, span⟩

/-- Opens a further table of a list of tables. -/
def openItem (name : String) (span header : Span) (parent : Table) : Except Flaw Table :=
  match parent.members.find? name with
  | none =>
    .ok { parent with
      members := parent.members.insert name (span, header) (.tables [(.header, [])]) }
  | some (spans, .tables items) =>
    .ok { parent with
      members := parent.members.insert name spans (.tables (items ++ [(.header, [])])) }
  | some _ => .error ⟨.duplicateKey, span⟩

/-- Carries out a header: the child is made or reopened in its parent. -/
def enter (openChild : String → Span → Span → Table → Except Flaw Table) (path : List KeyPart)
    (span : Span) (root : Table) : Except Flaw (List (String × Span) × Table) := do
  let names ← pathNames path
  match names.getLast? with
  | none => return ([], root)
  | some (name, nameSpan) =>
    return (names, ← descend false (openChild name nameSpan span) names.dropLast root)

/-- Carries out statements one after another. Assignments go to the table opened last. -/
def build : List Statement → List (String × Span) → Table → Except Flaw Table
  | [], _, root => .ok root
  | .header path span :: rest, _, root => do
    let (current, root) ← enter openTable path span root
    build rest current root
  | .arrayHeader path span :: rest, _, root => do
    let (current, root) ← enter openItem path span root
    build rest current root
  | .assign path v :: rest, current, root => do
    let names ← pathNames path
    let value ← Value.ofRaw v
    let root ← descend false (assign names v.span value) current root
    build rest current root

def parse (source : String) : Except Flaw Members := do
  let t ← build (← statements source) [] ⟨.header, []⟩
  return t.members

end EventFeed.Toml
