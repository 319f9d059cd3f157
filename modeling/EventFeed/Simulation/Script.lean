import EventFeed.Connection.Frame
import EventFeed.Connection.State
import EventFeed.Dispatch.Registry
import EventFeed.Logging.Level
import EventFeed.Manager.Basic

/-! # Scripts

What a simulated run is made of: the configuration of the manager, what its callbacks do when they
are called, and how the far side answers each attempt to open a connection.
-/

namespace EventFeed.Simulation

/-- A subscriber: the program's own, which logs events, or a scripted one. -/
inductive HandlerId where
  | eventLogger
  | scripted (name : String)
  deriving DecidableEq, Repr

/-- An observer: the program's own, which shows notifications, or a scripted one. -/
inductive ObserverId where
  | notifier
  | scripted (name : String)
  deriving DecidableEq, Repr

inductive Action where
  | subscribe (type : String) (handler : HandlerId)
  | unsubscribe (type : String) (handler : HandlerId)
  | count (type : String)
  | dispatch (raw : String)
  | connect
  | disconnect
  | observe (observer : ObserverId)
  | unobserve (observer : ObserverId)
  /-- Calls an observer directly. -/
  | notify (observer : ObserverId) (state : Except DecodeError ConnectionState)
  /-- The far side sends on a connection, which is the latest one if none is given. -/
  | send (item : Inbound) (link : Option Nat)

inductive Ending where
  | ok
  | failed (message : String)
  /-- It breaks off. -/
  | broken
  deriving DecidableEq, Repr

structure HandlerScript where
  /-- What it does on its first calls. -/
  actions : List Action := []
  /-- On how many calls it does so. -/
  runs : Nat := 1
  ending : Ending := .ok

structure ObserverScript where
  /-- The only state it takes note of, if it is restricted. -/
  only : Option String := none
  actions : List Action := []
  runs : Nat := 1
  breaks : Bool := false

/-- How one send goes. -/
inductive SendScript where
  | takes (millis : Nat)
  | fails (millis : Nat) (message : String)
  /-- It never ends. -/
  | stalls
  deriving DecidableEq, Repr

/-- How a connection takes what the client sends. -/
structure SinkScript where
  /-- Each send may go its own way, by the number of those before it. -/
  send : Nat → SendScript := fun _ => .takes 0
  /-- The message with which closing fails, if it does. -/
  closeError : Option String := none

/-- How the far side answers an attempt to open a connection. -/
inductive OpenAnswer where
  | accept
  | refuse (message : String)
  /-- No answer comes. -/
  | hang
  deriving DecidableEq, Repr

structure OpenScript where
  answer : OpenAnswer := .accept
  delay : Nat := 0
  /-- What happens just before the answer. -/
  actions : List Action := []
  /-- What an accepted connection holds from the start. -/
  items : List Inbound := []
  sink : SinkScript := {}

/-- A run: its fixed parts. -/
structure Scenario where
  manager : Manager := {}
  handlers : List (String × HandlerScript) := []
  observers : List (String × ObserverScript) := []
  /-- How attempts are answered when no answer of their own is left. -/
  fallback : OpenScript := {}
  /-- The records that are noted down. -/
  threshold : LogThreshold := .off

namespace Scenario

def handler (s : Scenario) (name : String) : HandlerScript := (s.handlers.lookup name).getD {}

def observer (s : Scenario) (name : String) : ObserverScript := (s.observers.lookup name).getD {}

end Scenario

inductive Value where
  | none
  | flag (value : Bool)
  | count (value : Nat)
  | outcome (value : DispatchOutcome)
  | badType (error : InvalidEventType)
  | badFrame (error : FrameError)
  | badState (error : DecodeError)

def Value.isNone : Value → Bool
  | none => true
  | _ => false

end EventFeed.Simulation
