import EventFeed.Connection.Backoff
import EventFeed.Connection.Lifecycle

/-! # Sessions

A request to connect starts a session. It opens a connection and serves it until it is lost, waits
and opens the next one, and so on until it is told to stop, is superseded by a later request, or has
used up its retries. These are the changes that a session makes to the lifecycle; each fails when
the session has been superseded.
-/

namespace EventFeed

structure Session where
  epoch : UInt64
  backoff : Backoff
  deriving DecidableEq, Repr

namespace Session

variable {Observer : Type}

def start (c : Config) (epoch : UInt64) : Session := ⟨epoch, .ofConfig c⟩

/-- A connection has been opened: the retries start over. -/
def opened (s : Session) : Session := { s with backoff := s.backoff.reset }

def connected? (s : Session) (l : Lifecycle Observer) : Option (Lifecycle Observer) :=
  l.advance? s.epoch .connected (some 0)

/-- A connection could not be opened or was lost: the delay before the next attempt, if one is left.
-/
def setback (s : Session) : Option Duration × Session :=
  let (delay, backoff) := s.backoff.next
  (delay, { s with backoff })

/-- The change to reconnecting, after a setback. -/
def reconnecting? (s : Session) (l : Lifecycle Observer) : Option (Lifecycle Observer) :=
  l.advance? s.epoch .reconnecting (some s.backoff.attempt)

/-- The change to failed, when no retry is left. -/
def failed? (s : Session) (l : Lifecycle Observer) : Option (Lifecycle Observer) :=
  l.advance? s.epoch .failed none

/-- The change to connecting, when the delay is over. -/
def connecting? (s : Session) (l : Lifecycle Observer) : Option (Lifecycle Observer) :=
  l.advance? s.epoch .connecting none

end Session

end EventFeed
