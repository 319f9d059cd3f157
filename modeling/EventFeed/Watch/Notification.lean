import EventFeed.Connection.State

/-! # Notifications

What a user is told about the connection: good news when it is up, a warning while it is being
restored, an error that stays when it is given up, and a note when it is closed.
-/

namespace EventFeed

inductive NotificationLevel where
  | success
  | info
  | warning
  | error
  deriving DecidableEq, Repr

def NotificationLevel.name : NotificationLevel → String
  | success => "success"
  | info => "info"
  | warning => "warning"
  | error => "error"

structure Notification where
  level : NotificationLevel
  message : String
  /-- Whether it stays on screen until it is dismissed. -/
  persistent : Bool := false
  deriving DecidableEq, Repr

namespace Notification

def connected : Notification := ⟨.success, "Real-time updates connected", false⟩

def reconnecting : Notification := ⟨.warning, "Connection lost. Reconnecting...", false⟩

def failed : Notification :=
  ⟨.error, "Unable to connect to real-time updates. Please refresh to retry.", true⟩

def disconnected : Notification := ⟨.info, "Real-time updates disconnected", false⟩

/-- The notification for a change of state, if there is one. Being disconnected while connecting is
a handshake that never got anywhere, and stays quiet. -/
def forChange (previous next : ConnectionState) : Option Notification :=
  match next with
  | .connected => some connected
  | .reconnecting => some reconnecting
  | .failed => some failed
  | .disconnected => if previous = .connecting then none else some disconnected
  | .idle | .connecting => none

def toJson (n : Notification) : Json :=
  .ofMembers [("level", .str n.level.name), ("message", .str n.message),
    ("persistent", .bool n.persistent)]

end Notification

/-- Remembers the state last seen, so that single states can be told as changes. -/
structure StateNotifier where
  previous : ConnectionState := .idle
  deriving DecidableEq, Repr

/-- Records a state and returns its notification. -/
def StateNotifier.notify (n : StateNotifier) (next : ConnectionState) :
    Option Notification × StateNotifier :=
  (Notification.forChange n.previous next, ⟨next⟩)

end EventFeed
