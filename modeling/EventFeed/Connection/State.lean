import EventFeed.Json.Decode

/-! # Connection states

A connection starts `idle`, is `connecting` until it is open and `connected` while it is served.
After a failure it is `reconnecting` until the next attempt. It ends `failed` when the retries are
used up and `disconnected` when the caller asks for it; both stay until the caller connects again.
-/

namespace EventFeed

inductive ConnectionState where
  | idle
  | connecting
  | connected
  | reconnecting
  | disconnected
  | failed
  deriving DecidableEq, Repr, Inhabited

namespace ConnectionState

def all : List ConnectionState :=
  [idle, connecting, connected, reconnecting, disconnected, failed]

def name : ConnectionState → String
  | idle => "idle"
  | connecting => "connecting"
  | connected => "connected"
  | reconnecting => "reconnecting"
  | disconnected => "disconnected"
  | failed => "failed"

/-- Connecting has no effect in these states. -/
def isActive : ConnectionState → Bool
  | connecting | connected => true
  | _ => false

/-- These states stay until the caller asks for a new connection. -/
def isTerminal : ConnectionState → Bool
  | disconnected | failed => true
  | _ => false

def decode : Json.Decoder ConnectionState :=
  Json.Decoder.oneOf (all.map fun s => (s.name, s))

def toJson (s : ConnectionState) : Json := .str s.name

end ConnectionState

end EventFeed
