import EventFeed.Error.Wording

/-! # Event types

The name that says what an event is about. Seven names belong to the registry; every other
well-formed name is a custom type. A custom type carries the evidence that its name is well formed
and is not one of the seven, so each name belongs to at most one type.
-/

namespace EventFeed

namespace EventName

def isLetterOrDigit (c : Char) : Bool :=
  ('A' ≤ c && c ≤ 'Z') || ('a' ≤ c && c ≤ 'z') || ('0' ≤ c && c ≤ '9')

/-- The characters a name may start with. -/
def isHead (c : Char) : Bool := isLetterOrDigit c || c == '_'

/-- The characters a name may go on with. -/
def isTail (c : Char) : Bool := isHead c || c == '.' || c == ':' || c == '-'

/-- The largest number of bytes in a name. -/
def maxLength : Nat := 128

/-- A head followed by tail characters. -/
def hasNameShape : List Char → Bool
  | [] => false
  | c :: rest => isHead c && rest.all isTail

/-- Why a name is refused. -/
inductive Fault where
  | empty
  | tooLong
  | badCharacter
  deriving DecidableEq, Repr

def Fault.message : Fault → String
  | empty => "event type is empty"
  | tooLong => s!"event type longer than {maxLength} characters"
  | badCharacter => "event type contains invalid characters"

/-- The first rule that a name breaks. -/
def fault? (name : String) : Option Fault :=
  if name.isEmpty then some .empty
  else if maxLength < name.utf8ByteSize then some .tooLong
  else if hasNameShape name.toList then none
  else some .badCharacter

end EventName

/-- The events of the registry. -/
inductive RegistryEvent where
  | serviceRegistered
  | serviceUnregistered
  | instanceRegistered
  | instanceUnregistered
  | instanceStatusChanged
  | clusterNodeAdded
  | clusterNodeRemoved
  deriving DecidableEq, Repr

namespace RegistryEvent

/-- All of them, in the order in which they are watched. -/
def all : List RegistryEvent :=
  [serviceRegistered, serviceUnregistered, instanceRegistered, instanceUnregistered,
    instanceStatusChanged, clusterNodeAdded, clusterNodeRemoved]

def name : RegistryEvent → String
  | serviceRegistered => "service.registered"
  | serviceUnregistered => "service.unregistered"
  | instanceRegistered => "instance.registered"
  | instanceUnregistered => "instance.unregistered"
  | instanceStatusChanged => "instance.status_changed"
  | clusterNodeAdded => "cluster.node_added"
  | clusterNodeRemoved => "cluster.node_removed"

def ofName? : String → Option RegistryEvent
  | "service.registered" => some serviceRegistered
  | "service.unregistered" => some serviceUnregistered
  | "instance.registered" => some instanceRegistered
  | "instance.unregistered" => some instanceUnregistered
  | "instance.status_changed" => some instanceStatusChanged
  | "cluster.node_added" => some clusterNodeAdded
  | "cluster.node_removed" => some clusterNodeRemoved
  | _ => none

@[simp] theorem ofName?_name (e : RegistryEvent) : ofName? e.name = some e := by
  cases e <;> rfl

theorem mem_all (e : RegistryEvent) : e ∈ all := by
  cases e <;> decide

end RegistryEvent

/-- A well-formed name that is not one of the registry. -/
structure CustomType where
  name : String
  wellFormed : EventName.fault? name = none
  unregistered : RegistryEvent.ofName? name = none
  deriving DecidableEq, Repr

inductive EventType where
  | registry (event : RegistryEvent)
  | custom (type : CustomType)
  deriving DecidableEq, Repr

structure InvalidEventType where
  name : String
  fault : EventName.Fault
  deriving DecidableEq, Repr

def InvalidEventType.message (e : InvalidEventType) : String :=
  Wording.eventType e.name e.fault.message

namespace EventType

/-- The type with a name. The names of the registry need no further check. -/
def parse (name : String) : Except InvalidEventType EventType :=
  match known : RegistryEvent.ofName? name with
  | some e => .ok (.registry e)
  | none =>
    match sound : EventName.fault? name with
    | some fault => .error ⟨name, fault⟩
    | none => .ok (.custom ⟨name, sound, known⟩)

def name : EventType → String
  | registry e => e.name
  | custom t => t.name

def isKnown : EventType → Bool
  | registry _ => true
  | custom _ => false

/-- The types of the registry, in the order in which they are watched. -/
def known : List EventType := RegistryEvent.all.map registry

end EventType

end EventFeed
