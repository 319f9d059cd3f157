import EventFeed.Event.Kind
import EventFeed.Json.Parser
import EventFeed.Json.Decode
import EventFeed.Error.Wording

/-! # Inbound events

An event is a text frame that holds an object with a type, and perhaps a payload and a timestamp.
The payload stays as it is; a subscriber reads it into the shape it expects.
-/

namespace EventFeed

/-- A server's time: milliseconds since the epoch, or a text of its own. -/
inductive EventTimestamp where
  | millis (value : Int)
  | text (value : String)
  deriving DecidableEq, Repr

structure Event where
  type : EventType
  payload : Json
  timestamp : Option EventTimestamp
  deriving Repr

inductive FrameError where
  | malformed (error : Json.ReadError)
  | notAnObject
  | shape (error : DecodeError)
  deriving DecidableEq, Repr

/-- The reason alone. -/
def FrameError.reason : FrameError → String
  | malformed e => e.message
  | notAnObject => "frame is not a JSON object"
  | shape e => e.message

def FrameError.message (e : FrameError) : String := Wording.frame e.reason

namespace EventTimestamp

/-- An integer of 64 bits with sign, or a text. -/
def decode : Json.Decoder EventTimestamp := fun v =>
  match v.found with
  | .int n => if -2 ^ 63 ≤ n ∧ n < 2 ^ 63 then .ok (.millis n) else other
  | .str s => .ok (.text s)
  | _ => other
where
  other : Except DecodeError EventTimestamp := .error (.noVariant "EventTimestamp")

def toJson : EventTimestamp → Json
  | millis n => .int n
  | text s => .str s

end EventTimestamp

namespace EventType

/-- A string that is the name of a type. -/
def decode : Json.Decoder EventType := fun v => do
  let name ← Json.Decoder.text v
  match parse name with
  | .ok t => return t
  | .error e => .error (.custom e.message)

end EventType

namespace Event

/-- Reads the members of a frame, in the order of their keys. The payload stands under `payload` or
under `data`, but not under both. -/
def ofMembers (members : List (String × Json)) : Except DecodeError Event := do
  let payload ← match Json.member? members "data", Json.member? members "payload" with
    | some _, some _ => .error (.duplicateField "payload")
    | some v, none => pure v
    | none, some v => pure v
    | none, none => pure .null
  let timestamp ← match Json.member? members "timestamp" with
    | some v => Json.Decoder.optional EventTimestamp.decode v
    | none => pure none
  match Json.member? members "type" with
  | some v => return ⟨← EventType.decode v, payload, timestamp⟩
  | none => .error (.missingField "type")

/-- The event of a text frame. -/
def parse (raw : String) : Except FrameError Event :=
  match Json.parse raw with
  | .error e => .error (.malformed e)
  | .ok (.obj members) =>
    match ofMembers members with
    | .error e => .error (.shape e)
    | .ok e => .ok e
  | .ok _ => .error .notAnObject

/-- Reads the payload into a shape of the caller's choice. -/
def payloadAs (decode : Json.Decoder α) (e : Event) : Except FrameError α :=
  match decode e.payload with
  | .error e => .error (.shape e)
  | .ok a => .ok a

def timestampJson (e : Event) : Json :=
  match e.timestamp with
  | some t => t.toJson
  | none => .null

def text (e : Event) : String :=
  Json.recordText [("type", .str e.type.name), ("payload", e.payload),
    ("timestamp", e.timestampJson)]

/-- The name of the reply to a heartbeat. -/
def pongName : String := "pong"

def isPong (e : Event) : Bool :=
  match e.type with
  | .custom t => t.name == pongName
  | .registry _ => false

end Event

end EventFeed
