import EventFeed.Connection.Frame
import EventFeed.Connection.State
import EventFeed.Dispatch.Registry
import EventFeed.Logging.Record
import EventFeed.Watch.EventLog
import EventFeed.Watch.Notification

/-! # What the manager reports

The log records of a manager, its dispatcher and its sessions, and those of the watching program's
own callbacks. Callbacks and sessions have no name of their own, and records only show of what kind
they are.
-/

namespace EventFeed.Report

def handlerText : String := "EventHandler(<ptr>)"

def observerText : String := "StateObserver(<ptr>)"

def sessionText : String := "Session <id>"

/-! ## Subscriptions and delivery -/

/-- The record of a change to the list of a type. -/
def subscription (type : EventType) : Registry.Change → Option LogRecord
  | .added count =>
    some (.connection .debug s!"Subscribed handler to {type.name} ({count} registered)")
  | .alreadyThere =>
    some (.connection .debug s!"Handler {handlerText} already subscribed to {type.name}")
  | .removed remaining =>
    some (.connection .debug s!"Unsubscribed handler from {type.name} ({remaining} remaining)")
  | .notThere => none

def noHandlers (type : EventType) : LogRecord := .connection .trace s!"No handlers for {type.name}"

def noSubscribers (type : EventType) : LogRecord :=
  .connection .trace s!"No subscribers for {type.name}"

def handlerFailed (type : EventType) (message : String) : LogRecord :=
  .connection .error s!"Handler {handlerText} for {type.name} failed: {message}"

def handlerBroke (type : EventType) : LogRecord :=
  .connection .error s!"Handler {handlerText} for {type.name} panicked"

def delivered (type : EventType) (o : DispatchOutcome) : LogRecord :=
  .connection .trace s!"Delivered {type.name} to {o.invoked} handler(s), {o.failed} failed"

/-! ## The lifecycle -/

def created (endpoint : String) : LogRecord :=
  .connection .info s!"Realtime manager created for {endpoint}"

def sharing : LogRecord := .connection .info "Creating shared realtime manager"

def connectIgnored (state : ConnectionState) : LogRecord :=
  .connection .debug s!"connect() ignored while {state.name}"

def observerKnown : LogRecord := .connection .debug s!"{observerText} already registered"

def transition (previous next : ConnectionState) : LogRecord :=
  .connection .info s!"Connection state: {previous.name} -> {next.name}"

def observerBroke (next : ConnectionState) : LogRecord :=
  .connection .error s!"{observerText} panicked handling {next.name}"

def superseded (next : ConnectionState) (epoch current : UInt64) : LogRecord :=
  .connection .debug s!"Ignoring {next.name} from stale session (epoch {epoch}, current {current})"

/-! ## Sessions -/

def sessionStarted (epoch : UInt64) : LogRecord :=
  .connection .debug s!"{sessionText} started (epoch {epoch})"

def stoppedConnecting : LogRecord := .connection .debug s!"{sessionText} stopped while connecting"

def sessionConnected (endpoint : String) : LogRecord :=
  .connection .info s!"{sessionText} connected to {endpoint}"

def sessionClosed : LogRecord := .connection .debug s!"{sessionText} closed on request"

def sessionLost (loss : Loss) : LogRecord :=
  .connection .warn s!"{sessionText} lost connection: {loss.message}"

def openFailed (endpoint : String) (e : TransportError) : LogRecord :=
  .connection .warn s!"{sessionText} failed to open {endpoint}: {e.message}"

def givingUp (attempts : UInt32) : LogRecord :=
  .connection .error s!"{sessionText} giving up after {attempts} reconnect attempt(s)"

def reconnecting (delay : Duration) (attempt : UInt32) : LogRecord :=
  .connection .info s!"{sessionText} reconnecting in {delay.text} (attempt {attempt})"

def retryCancelled : LogRecord := .connection .debug s!"{sessionText} retry cancelled"

def malformedFrame (e : FrameError) : LogRecord :=
  .connection .warn s!"Dropping malformed frame: {e.message}"

def probe (length : Nat) : LogRecord := .connection .trace s!"Ping from server ({length} bytes)"

def pingSent : LogRecord := .connection .trace "Heartbeat ping sent"

def closeNotSent (e : TransportError) : LogRecord :=
  .connection .debug s!"Close frame not sent: {e.message}"

def closeFailed (e : TransportError) : LogRecord :=
  .connection .debug s!"Transport close failed: {e.message}"

/-! ## The watching program -/

def connecting (endpoint : String) : LogRecord := .watch .info s!"Connecting to {endpoint}"

def disconnecting (endpoint : String) : LogRecord := .watch .info s!"Disconnecting from {endpoint}"

def registryEvent (e : Event) : LogRecord := .watch .info s!"Registry event: {e.describe}"

/-- A notification is logged at the level of its severity. -/
def notification (n : Notification) : LogRecord :=
  match n.level with
  | .success | .info => .watch .info n.message
  | .warning => .watch .warn n.message
  | .error => .watch .error (if n.persistent then n.message ++ " (persistent)" else n.message)

end EventFeed.Report
