import EventFeed.Connection.Heartbeat
import EventFeed.Connection.Session
import EventFeed.Manager.Record
import EventFeed.Simulation.Script

/-! # The simulated world

A manager, its sessions, the connections they have opened, and a clock. The world keeps a journal of
what happens in it.

Sessions take turns: those that can go on wait in a queue, and each runs until it has to wait for
something. A session that waits for a time has set an alarm for it; alarms that are due at one time
go off in the order in which they were set.
-/

namespace EventFeed.Simulation

/-- One thing that happened. -/
inductive Entry where
  | handler (name : String) (event : Event)
  /-- An observer was called; `current` and `attempts` are what the manager tells at that moment. -/
  | observer (name : String) (state current : ConnectionState) (attempts : UInt32)
  | notified (notification : Notification)
  | opened (answer : OpenAnswer)
  | sent (link : Nat) (frame : Outbound)
  | sinkClosed (link : Nat)
  | released (link : Nat)
  /-- An action of a callback yielded a value. -/
  | did (action : Action) (value : Value)
  | logged (record : LogRecord)

/-- A connection that the far side has accepted. -/
structure Link where
  inbox : List Inbound
  sink : SinkScript
  /-- The sends that have been started. -/
  started : Nat := 0
  released : Bool := false

/-- The way that a send goes which has been started. -/
inductive Sending where
  | ends (time : Nat)
  | fails (time : Nat) (error : TransportError)
  | never
  deriving DecidableEq, Repr

/-- What has become of a send by now, if it is over. -/
def Sending.result? (now : Nat) : Sending → Option (Except TransportError Unit)
  | ends time => if time ≤ now then some (.ok ()) else none
  | fails time e => if time ≤ now then some (.error e) else none
  | never => none

/-- How a send started now will go. -/
def Link.sending (link : Link) (now : Nat) : Sending :=
  match link.sink.send link.started with
  | .takes millis => .ends (now + millis)
  | .fails millis message => .fails (now + millis) (.send message)
  | .stalls => .never

/-- What a session does next, or what it waits for. -/
inductive Activity where
  | starting
  | calling
  /-- Waits for an answer until a time; the answer is ready at another time, if it is still to come.
  -/
  | opening (script : OpenScript) (ready : Option Nat) (limit : Nat)
  | answering (script : OpenScript) (limit : Nat)
  | accepted (link : Nat)
  | greeting (link : Nat)
  | serving (link : Nat) (heartbeat : Heartbeat)
  /-- An event has been delivered. -/
  | delivered (link : Nat) (heartbeat : Heartbeat) (type : EventType)
  | pinging (link : Nat) (heartbeat : Heartbeat) (sending : Sending) (limit : Nat)
  | losing (link : Nat) (loss : Loss)
  | refused (error : TransportError)
  | retreating
  | retrying (delay : Option Duration)
  | waiting (time : Nat)
  /-- The delay is over. -/
  | resuming
  | closing (link : Nat) (requested : Bool) (sending : Sending)
  | hangingUp (link : Nat) (requested : Bool)
  | done

/-- The connection that a session holds. -/
def Activity.link? : Activity → Option Nat
  | accepted n | greeting n | serving n _ | delivered n _ _ | pinging n _ _ _ | losing n _
  | closing n _ _ | hangingUp n _ => some n
  | _ => none

inductive AlarmKind where
  | answer
  | limit
  | deadline
  | tick
  | sent
  | delay
  deriving DecidableEq, Repr

structure Alarm where
  kind : AlarmKind
  due : Nat
  /-- Alarms set earlier have lower numbers. -/
  number : Nat
  deriving DecidableEq, Repr

/-- A session that has not ended. -/
structure Task where
  session : Session
  activity : Activity := .starting
  alarms : List Alarm := []

/-- The alarms that stay set when a session goes on to an activity. -/
def Activity.keeps (a : Activity) (kind : AlarmKind) : Bool :=
  match a, kind with
  | opening .., .limit | answering .., .limit | serving .., .tick | delivered .., .tick => true
  | _, _ => false

structure World where
  scenario : Scenario
  now : Nat := 0
  lifecycle : Lifecycle ObserverId := {}
  registry : Registry HandlerId := {}
  notifier : StateNotifier := {}
  /-- How often each scripted handler has been called. -/
  handlerCalls : List String := []
  /-- How often each scripted observer has taken note of a state. -/
  observerCalls : List String := []
  /-- The answers that are left. -/
  opens : List OpenScript := []
  links : List Link := []
  tasks : List Task := []
  /-- The sessions that can go on, by epoch, in the order in which they go on. -/
  queue : List UInt64 := []
  /-- The session whose turn it is. -/
  running : Option UInt64 := none
  /-- Whether that session is to have another turn. -/
  again : Bool := false
  /-- The number of alarms set so far. -/
  alarmCount : Nat := 0
  /-- What has happened, latest first, each with its time. -/
  journal : List (Nat × Entry) := []

namespace World

def note (w : World) (e : Entry) : World := { w with journal := (w.now, e) :: w.journal }

/-- Enters a record, if its level is noted down. -/
def report (w : World) (r : LogRecord) : World :=
  if w.scenario.threshold.admits r.level then w.note (.logged r) else w

def task? (w : World) (epoch : UInt64) : Option Task :=
  w.tasks.find? fun t => t.session.epoch == epoch

def setTask (w : World) (task : Task) : World :=
  { w with tasks := w.tasks.map fun t => if t.session.epoch = task.session.epoch then task else t }

def removeTask (w : World) (epoch : UInt64) : World :=
  { w with tasks := w.tasks.filter fun t => t.session.epoch != epoch }

/-- Lets a session go on, unless it has ended or already waits for its turn. -/
def enqueue (w : World) (epoch : UInt64) : World :=
  if (w.task? epoch).isSome && !w.queue.contains epoch then { w with queue := w.queue ++ [epoch] }
  else w

/-- Lets a session go on. A session whose turn it is waits for another turn when this one is over.
-/
def wake (w : World) (epoch : UInt64) : World :=
  if w.running = some epoch then { w with again := true } else w.enqueue epoch

def beginTurn (w : World) (epoch : UInt64) : World :=
  { w with running := some epoch, again := false }

def endTurn (w : World) (epoch : UInt64) : World :=
  let next := { w with running := none, again := false }
  if w.again then next.enqueue epoch else next

def spawn (w : World) (epoch : UInt64) : World :=
  { w with
    tasks := w.tasks ++ [{ session := .start w.scenario.manager.config epoch }]
    queue := w.queue ++ [epoch] }

/-- Tells the latest session that it is to stop. -/
def wakeOwner (w : World) : World :=
  match w.lifecycle.owner with
  | some epoch => w.wake epoch
  | none => w

def link? (w : World) (n : Nat) : Option Link := w.links[n]?

def setLink (w : World) (n : Nat) (link : Link) : World := { w with links := w.links.set n link }

def release (w : World) (n : Nat) : World :=
  match w.link? n with
  | some link => (w.setLink n { link with released := true }).note (.released n)
  | none => w

def setInbox (w : World) (n : Nat) (inbox : List Inbound) : World :=
  match w.link? n with
  | some link => w.setLink n { link with inbox }
  | none => w

def startSend (w : World) (n : Nat) : Sending × World :=
  match w.link? n with
  | some link => (link.sending w.now, w.setLink n { link with started := link.started + 1 })
  | none => (.never, w)

/-- The far side sends on a connection; nothing is sent on one that the client has let go of. -/
def receive (w : World) (item : Inbound) (n : Nat) : Bool × World :=
  match w.link? n with
  | some link =>
    if link.released then (false, w)
    else
      let w := w.setLink n { link with inbox := link.inbox ++ [item] }
      match w.tasks.find? fun t => t.activity.link? == some n with
      | some t => (true, w.wake t.session.epoch)
      | none => (true, w)
  | none => (false, w)

/-- Sets the alarms of a session that waits. One that is already set for the same time stays as it
is. -/
def setAlarms (w : World) (task : Task) (wanted : List (AlarmKind × Nat)) : World :=
  let (alarms, count) := wanted.foldl
    (fun (alarms, count) (kind, due) =>
      match task.alarms.find? fun a => a.kind == kind && a.due == due with
      | some a => (alarms ++ [a], count)
      | none => (alarms ++ [⟨kind, due, count⟩], count + 1))
    (([] : List Alarm), w.alarmCount)
  { w with alarmCount := count }.setTask { task with alarms }

/-- All alarms, each with the epoch of its session. -/
def alarms (w : World) : List (UInt64 × Alarm) :=
  w.tasks.flatMap fun t => t.alarms.map fun a => (t.session.epoch, a)

/-- The time of the next alarm. -/
def nextAlarm? (w : World) : Option Nat := (w.alarms.map fun a => a.2.due).min?

/-- Moves the clock to the time of an alarm. What is due goes off. -/
def ring (w : World) (time : Nat) : World :=
  let w := { w with now := max w.now time }
  let due := (w.alarms.filter fun a => a.2.due ≤ w.now).mergeSort fun a b => a.2.number ≤ b.2.number
  let w := { w with
    tasks := w.tasks.map fun t => { t with alarms := t.alarms.filter fun a => w.now < a.due } }
  due.foldl (fun w a => w.wake a.1) w

end World

end EventFeed.Simulation
