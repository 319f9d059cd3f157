import EventFeed.Simulation.Call

/-! # Sessions in the simulated world

The steps of a session: opening a connection, serving it with heartbeats, and what follows when it
is lost or the session is told to stop.
-/

namespace EventFeed.Simulation

/-- What comes of a step of a session. -/
inductive Progress where
  /-- It goes on, after the calls that its step leads to. -/
  | goOn (activity : Activity) (calls : List Call)
  /-- It waits for something to happen, at the latest for one of some times. -/
  | wait (activity : Activity) (alarms : List (AlarmKind × Nat))
  | finish

namespace World

/-- A change of state by a session, if it has not been superseded. -/
def advance (w : World) (s : Session) (next : ConnectionState)
    (change : Session → Lifecycle ObserverId → Option (Lifecycle ObserverId))
    (proceed : Activity) (otherwise : Progress) : World × Progress :=
  match change s w.lifecycle with
  | some l => ({ w with lifecycle := l }, .goOn proceed [.flush])
  | none => (w.report (Report.superseded next s.epoch w.lifecycle.epoch), otherwise)

def startClosing (w : World) (link : Nat) (requested : Bool) : World × Progress :=
  let (sending, w) := w.startSend link
  (w, .goOn (.closing link requested sending) [])

/-- Waits for the end of a send. -/
def sendingAlarms : Sending → List (AlarmKind × Nat)
  | .ends time | .fails time _ => [(.sent, time)]
  | .never => []

/-- The way in which the next attempt to connect is answered. -/
def nextOpen (w : World) : OpenScript := w.opens.head?.getD w.scenario.fallback

/-- An attempt to connect takes its answer from those that are left. -/
def takeOpen (w : World) : World :=
  { w with opens := w.opens.tail }.note (.opened w.nextOpen.answer)

def await (w : World) (script : OpenScript) (ready : Option Nat) (limit : Nat) : World × Progress :=
  if limit ≤ w.now then (w, .goOn (.refused (.timeout w.scenario.manager.config.connectTimeout)) [])
  else
    (w, .wait (.opening script ready limit)
      ((ready.map fun time => (AlarmKind.answer, time)).toList ++ [(.limit, limit)]))

def answer (w : World) (script : OpenScript) (limit : Nat) : World × Progress :=
  match script.answer with
  | .accept =>
    let n := w.links.length
    ({ w with links := w.links ++ [⟨script.items, script.sink, 0, false⟩] }, .goOn (.accepted n) [])
  | .refuse message => (w, .goOn (.refused (.connect message)) [])
  | .hang => w.await script none limit

def serve (w : World) (stopped : Bool) (n : Nat) (h : Heartbeat) : World × Progress :=
  let inbox := ((w.link? n).map Link.inbox).getD []
  match h.turn w.now stopped inbox with
  | .stop => w.startClosing n true
  | .expire => (w, .goOn (.losing n (.noReply w.scenario.manager.config.heartbeatTimeout)) [])
  | .read item rest =>
    let w := w.setInbox n rest
    match item.reading with
    | .event e => (w, .goOn (.delivered n h e.type) [.deliver e])
    | .acknowledgement => (w, .goOn (.serving n h.acknowledge) [])
    | .probe length => (w.report (Report.probe length), .goOn (.serving n h) [])
    | .malformed e => (w.report (Report.malformedFrame e), .goOn (.serving n h) [])
    | .over loss => (w, .goOn (.losing n loss) [])
  | .ping =>
    let (sending, started) := w.startSend n
    (started, .goOn (.pinging n (h.takeTick w.now) sending (w.now + h.timeout)) [])
  | .wait =>
    let deadline := (h.deadline.map fun d => (AlarmKind.deadline, d)).toList
    (w, .wait (.serving n h) (deadline ++ [(.tick, h.nextTick)]))

def ping (w : World) (n : Nat) (h : Heartbeat) (sending : Sending) (limit : Nat) :
    World × Progress :=
  match sending.result? w.now with
  | some (.ok ()) =>
    ((w.note (.sent n (.ping w.now))).report Report.pingSent,
      .goOn (.serving n (h.pingSent w.now)) [])
  | some (.error e) => (w, .goOn (.losing n (.pingFailed e)) [])
  | none =>
    if limit ≤ w.now then
      (w, .goOn (.losing n (.pingStalled w.scenario.manager.config.heartbeatTimeout)) [])
    else (w, .wait (.pinging n h sending limit) (sendingAlarms sending ++ [(.limit, limit)]))

def close (w : World) (n : Nat) (requested : Bool) (sending : Sending) : World × Progress :=
  match sending.result? w.now with
  | some (.ok ()) => (w.note (.sent n .close), .goOn (.hangingUp n requested) [])
  | some (.error e) => (w.report (Report.closeNotSent e), .goOn (.hangingUp n requested) [])
  | none => (w, .wait (.closing n requested sending) (sendingAlarms sending))

def hangUp (w : World) (n : Nat) (requested : Bool) : World × Progress :=
  let w := w.note (.sinkClosed n)
  let w := match (w.link? n).bind fun link => link.sink.closeError with
    | some message => w.report (Report.closeFailed (.send message))
    | none => w
  let w := w.release n
  (if requested then w.report Report.sessionClosed else w, .finish)

/-- Notes that nobody has been called for an event. -/
def reportUnheard (w : World) (type : EventType) : Value → World
  | .outcome o => if o.invoked = 0 then w.report (Report.noSubscribers type) else w
  | _ => w

/-- One step of a session; `value` is what the calls of the step before have yielded. -/
def stepSession (w : World) (s : Session) (activity : Activity) (value : Value) :
    World × Session × Progress :=
  let stopped := w.lifecycle.isStopped s.epoch
  let config := w.scenario.manager.config
  let keep (r : World × Progress) : World × Session × Progress := (r.1, s, r.2)
  match activity with
  | .starting => (w.report (Report.sessionStarted s.epoch), s, .goOn .calling [])
  | .calling =>
    if stopped then (w.takeOpen.report Report.stoppedConnecting, s, .finish)
    else
      let limit := w.now + config.connectTimeoutMs.toNat
      (w.takeOpen, s, .goOn (.opening w.nextOpen (some (w.now + w.nextOpen.delay)) limit) [])
  | .opening script ready limit =>
    if stopped then (w.report Report.stoppedConnecting, s, .finish)
    else
      match ready with
      | some time =>
        if time ≤ w.now then (w, s, .goOn (.answering script limit) [.actions script.actions])
        else keep (w.await script ready limit)
      | none => keep (w.await script ready limit)
  | .answering script limit => keep (w.answer script limit)
  | .accepted n =>
    match s.opened.connected? w.lifecycle with
    | some l => ({ w with lifecycle := l }, s.opened, .goOn (.greeting n) [.flush])
    | none =>
      let w := w.report (Report.superseded .connected s.epoch w.lifecycle.epoch)
      let (w, progress) := w.startClosing n false
      (w, s.opened, progress)
  | .greeting n =>
    let h := Heartbeat.start config.heartbeatIntervalMs.toNat config.heartbeatTimeoutMs.toNat w.now
    (w.report (Report.sessionConnected w.scenario.manager.endpoint), s, .goOn (.serving n h) [])
  | .serving n h => keep (w.serve stopped n h)
  | .delivered n h type =>
    (w.reportUnheard type value, s, .goOn (.serving n h) [])
  | .pinging n h sending limit => keep (w.ping n h sending limit)
  | .losing n loss => ((w.release n).report (Report.sessionLost loss), s, .goOn .retreating [])
  | .refused e =>
    (w.report (Report.openFailed w.scenario.manager.endpoint e), s, .goOn .retreating [])
  | .retreating =>
    let (delay, s) := s.setback
    let (w, progress) := w.advance s .reconnecting Session.reconnecting? (.retrying delay) .finish
    (w, s, progress)
  | .retrying none =>
    let w := w.report (Report.givingUp s.backoff.attempt)
    keep (w.advance s .failed Session.failed? .done .finish)
  | .retrying (some delay) =>
    (w.report (Report.reconnecting delay s.backoff.attempt), s,
      .goOn (.waiting (w.now + delay.ceilMillis)) [])
  | .waiting time =>
    if stopped then (w.report Report.retryCancelled, s, .finish)
    else if time ≤ w.now then (w, s, .goOn .resuming [])
    else (w, s, .wait activity [(.delay, time)])
  | .resuming => keep (w.advance s .connecting Session.connecting? .calling .finish)
  | .closing n requested sending => keep (w.close n requested sending)
  | .hangingUp n requested => keep (w.hangUp n requested)
  | .done => (w, s, .finish)

/-- Lets the session of an epoch take a step. The calls of the step go on top of the session. -/
def runSession (w : World) (epoch : UInt64) (value : Value) (below : List Call) :
    World × List Call :=
  match w.task? epoch with
  | none => (w, below)
  | some task =>
    match w.stepSession task.session task.activity value with
    | (w, session, .goOn activity calls) =>
      let alarms := task.alarms.filter fun a => activity.keeps a.kind
      (w.setTask ⟨session, activity, alarms⟩, calls ++ .session epoch :: below)
    | (w, session, .wait activity alarms) =>
      (w.setAlarms ⟨session, activity, task.alarms⟩ alarms, below)
    | (w, _, .finish) => (w.removeTask epoch, below)

end World

end EventFeed.Simulation
