import EventFeed.Simulation.Task

/-! # What a step of a session comes to

A session at an activity can go on in a few ways. They are listed here once, each with its condition
and with the world, the session and the progress that come of it; what a step of a session does in
one respect or another is read off the list.
-/

namespace EventFeed

theorem Lifecycle.advance?_eq_none {Observer : Type} {l : Lifecycle Observer} {epoch : UInt64}
    {next : ConnectionState} {attempts : Option UInt32} :
    l.advance? epoch next attempts = none ↔ l.epoch ≠ epoch := by
  unfold advance?
  split <;> simp_all

/-- What is next on an open connection, by whether the session is told to stop and what has come in.
-/
inductive Heartbeat.Next (h : Heartbeat) (now : Nat) : Bool → List Inbound → Turn → Prop
  | stop {inbox : List Inbound} : Next h now true inbox .stop
  | expire {inbox : List Inbound} : h.isExpired now = true → Next h now false inbox .expire
  | read {item : Inbound} {rest : List Inbound} : h.isExpired now = false →
      Next h now false (item :: rest) (.read item rest)
  | ping : h.isExpired now = false → h.isDue now = true → Next h now false [] .ping
  | wait : h.isExpired now = false → h.isDue now = false → Next h now false [] .wait

namespace Heartbeat

variable {h : Heartbeat} {now : Nat} {stopped : Bool} {inbox rest : List Inbound} {item : Inbound}
  {turn : Turn}

theorem next_of_turn (hturn : h.turn now stopped inbox = turn) :
    h.Next now stopped inbox turn := by
  subst hturn
  unfold Heartbeat.turn
  cases stopped with
  | true => exact .stop
  | false =>
      cases hexpired : h.isExpired now with
      | true => exact .expire hexpired
      | false =>
          cases inbox with
          | cons item rest => exact .read hexpired
          | nil =>
              cases hdue : h.isDue now with
              | true => exact .ping hexpired hdue
              | false => exact .wait hexpired hdue

theorem stopped_of_turn (hturn : h.turn now stopped inbox = .stop) : stopped = true := by
  cases next_of_turn hturn
  rfl

theorem isExpired_of_turn (hturn : h.turn now stopped inbox = .expire) :
    h.isExpired now = true := by
  cases next_of_turn hturn with
  | expire hexpired => exact hexpired

/-- What is read is first in the inbox. -/
theorem inbox_of_turn (hturn : h.turn now stopped inbox = .read item rest) :
    inbox = item :: rest := by
  cases next_of_turn hturn
  rfl

theorem isDue_of_turn (hturn : h.turn now stopped inbox = .ping) :
    h.isExpired now = false ∧ h.isDue now = true := by
  cases next_of_turn hturn with
  | ping hexpired hdue => exact ⟨hexpired, hdue⟩

end Heartbeat

namespace Simulation.World

def inboxes (w : World) : List (List Inbound) := w.links.map Link.inbox

/-- What has come in on a connection and has not been read. -/
def inbox (w : World) (n : Nat) : List Inbound := w.inboxes[n]?.getD []

theorem inbox_eq (w : World) (n : Nat) : ((w.link? n).map Link.inbox).getD [] = w.inbox n := by
  simp [inbox, inboxes, link?]

/-- The outcomes of a step of a session, by the activity that the session is at. -/
inductive Comes (w : World) (s : Session) (value : Value) :
    Activity → World × Session × Progress → Prop
  -- a connection is opened
  | start : Comes w s value .starting
      (w.report (Report.sessionStarted s.epoch), s, .goOn .calling [])
  | stopCalling : w.lifecycle.isStopped s.epoch = true → Comes w s value .calling
      (w.takeOpen.report Report.stoppedConnecting, s, .finish)
  | call : w.lifecycle.isStopped s.epoch = false → Comes w s value .calling
      (w.takeOpen, s, .goOn (.opening w.nextOpen (some (w.now + w.nextOpen.delay))
        (w.now + w.scenario.manager.config.connectTimeoutMs.toNat)) [])
  | stopOpening {script : OpenScript} {ready : Option Nat} {limit : Nat} :
      w.lifecycle.isStopped s.epoch = true → Comes w s value (.opening script ready limit)
        (w.report Report.stoppedConnecting, s, .finish)
  | answer {script : OpenScript} {time limit : Nat} : w.lifecycle.isStopped s.epoch = false →
      time ≤ w.now → Comes w s value (.opening script (some time) limit)
        (w, s, .goOn (.answering script limit) [.actions script.actions])
  | expire {script : OpenScript} {ready : Option Nat} {limit : Nat} :
      w.lifecycle.isStopped s.epoch = false → (∀ time ∈ ready, w.now < time) → limit ≤ w.now →
      Comes w s value (.opening script ready limit)
        (w, s, .goOn (.refused (.timeout w.scenario.manager.config.connectTimeout)) [])
  | await {script : OpenScript} {ready : Option Nat} {limit : Nat} :
      w.lifecycle.isStopped s.epoch = false → (∀ time ∈ ready, w.now < time) → w.now < limit →
      Comes w s value (.opening script ready limit)
        (w, s, .wait (.opening script ready limit)
          ((ready.map fun time => (AlarmKind.answer, time)).toList ++ [(.limit, limit)]))
  | accept {script : OpenScript} {limit : Nat} : script.answer = .accept →
      Comes w s value (.answering script limit)
        ({ w with links := w.links ++ [⟨script.items, script.sink, 0, false⟩] }, s,
          .goOn (.accepted w.links.length) [])
  | refuse {script : OpenScript} {limit : Nat} {message : String} :
      script.answer = .refuse message → Comes w s value (.answering script limit)
        (w, s, .goOn (.refused (.connect message)) [])
  | hang {script : OpenScript} {limit : Nat} : script.answer = .hang → w.now < limit →
      Comes w s value (.answering script limit)
        (w, s, .wait (.opening script none limit) [(.limit, limit)])
  | giveUpHanging {script : OpenScript} {limit : Nat} : script.answer = .hang → limit ≤ w.now →
      Comes w s value (.answering script limit)
        (w, s, .goOn (.refused (.timeout w.scenario.manager.config.connectTimeout)) [])
  | connect {n : Nat} {l : Lifecycle ObserverId} : s.opened.connected? w.lifecycle = some l →
      Comes w s value (.accepted n)
        ({ w with lifecycle := l }, s.opened, .goOn (.greeting n) [.flush])
  -- the close frame is started once the change that comes too late has been reported
  | tooLateToConnect {n : Nat} {reported : World} : w.lifecycle.epoch ≠ s.epoch →
      w.report (Report.superseded .connected s.epoch w.lifecycle.epoch) = reported →
      Comes w s value (.accepted n) ((reported.startSend n).2, s.opened,
        .goOn (.closing n false (reported.startSend n).1) [])
  -- the connection is served
  | greet {n : Nat} : Comes w s value (.greeting n)
      (w.report (Report.sessionConnected w.scenario.manager.endpoint), s,
        .goOn (.serving n (.start w.scenario.manager.config.heartbeatIntervalMs.toNat
          w.scenario.manager.config.heartbeatTimeoutMs.toNat w.now)) [])
  | stop {n : Nat} {h : Heartbeat} :
      h.turn w.now (w.lifecycle.isStopped s.epoch) (w.inbox n) = .stop →
      Comes w s value (.serving n h)
        ((w.startSend n).2, s, .goOn (.closing n true (w.startSend n).1) [])
  | lapse {n : Nat} {h : Heartbeat} :
      h.turn w.now (w.lifecycle.isStopped s.epoch) (w.inbox n) = .expire →
      Comes w s value (.serving n h)
        (w, s, .goOn (.losing n (.noReply w.scenario.manager.config.heartbeatTimeout)) [])
  | deliver {n : Nat} {h : Heartbeat} {item : Inbound} {rest : List Inbound} {e : Event} :
      h.turn w.now (w.lifecycle.isStopped s.epoch) (w.inbox n) = .read item rest →
      item.reading = .event e → Comes w s value (.serving n h)
        (w.setInbox n rest, s, .goOn (.delivered n h e.type) [.deliver e])
  | acknowledge {n : Nat} {h : Heartbeat} {item : Inbound} {rest : List Inbound} :
      h.turn w.now (w.lifecycle.isStopped s.epoch) (w.inbox n) = .read item rest →
      item.reading = .acknowledgement → Comes w s value (.serving n h)
        (w.setInbox n rest, s, .goOn (.serving n h.acknowledge) [])
  | overhear {n : Nat} {h : Heartbeat} {item : Inbound} {rest : List Inbound} {length : Nat} :
      h.turn w.now (w.lifecycle.isStopped s.epoch) (w.inbox n) = .read item rest →
      item.reading = .probe length → Comes w s value (.serving n h)
        ((w.setInbox n rest).report (Report.probe length), s, .goOn (.serving n h) [])
  | drop {n : Nat} {h : Heartbeat} {item : Inbound} {rest : List Inbound} {e : FrameError} :
      h.turn w.now (w.lifecycle.isStopped s.epoch) (w.inbox n) = .read item rest →
      item.reading = .malformed e → Comes w s value (.serving n h)
        ((w.setInbox n rest).report (Report.malformedFrame e), s, .goOn (.serving n h) [])
  | cutOff {n : Nat} {h : Heartbeat} {item : Inbound} {rest : List Inbound} {loss : Loss} :
      h.turn w.now (w.lifecycle.isStopped s.epoch) (w.inbox n) = .read item rest →
      item.reading = .over loss → Comes w s value (.serving n h)
        (w.setInbox n rest, s, .goOn (.losing n loss) [])
  | probe {n : Nat} {h : Heartbeat} :
      h.turn w.now (w.lifecycle.isStopped s.epoch) (w.inbox n) = .ping →
      Comes w s value (.serving n h) ((w.startSend n).2, s,
        .goOn (.pinging n (h.takeTick w.now) (w.startSend n).1 (w.now + h.timeout)) [])
  | idle {n : Nat} {h : Heartbeat} :
      h.turn w.now (w.lifecycle.isStopped s.epoch) (w.inbox n) = .wait →
      Comes w s value (.serving n h) (w, s, .wait (.serving n h)
        ((h.deadline.map fun d => (AlarmKind.deadline, d)).toList ++ [(.tick, h.nextTick)]))
  | serveOn {n : Nat} {h : Heartbeat} {type : EventType} : Comes w s value (.delivered n h type)
      (w.reportUnheard type value, s, .goOn (.serving n h) [])
  | pinged {n : Nat} {h : Heartbeat} {sending : Sending} {limit : Nat} :
      sending.result? w.now = some (.ok ()) → Comes w s value (.pinging n h sending limit)
        ((w.note (.sent n (.ping w.now))).report Report.pingSent, s,
          .goOn (.serving n (h.pingSent w.now)) [])
  | failPing {n : Nat} {h : Heartbeat} {sending : Sending} {limit : Nat} {e : TransportError} :
      sending.result? w.now = some (.error e) → Comes w s value (.pinging n h sending limit)
        (w, s, .goOn (.losing n (.pingFailed e)) [])
  | giveUpPing {n : Nat} {h : Heartbeat} {sending : Sending} {limit : Nat} :
      sending.result? w.now = none → limit ≤ w.now → Comes w s value (.pinging n h sending limit)
        (w, s, .goOn (.losing n (.pingStalled w.scenario.manager.config.heartbeatTimeout)) [])
  | awaitPing {n : Nat} {h : Heartbeat} {sending : Sending} {limit : Nat} :
      sending.result? w.now = none → w.now < limit → Comes w s value (.pinging n h sending limit)
        (w, s, .wait (.pinging n h sending limit) (sendingAlarms sending ++ [(.limit, limit)]))
  -- the connection is lost, or has not been opened
  | lose {n : Nat} {loss : Loss} : Comes w s value (.losing n loss)
      ((w.release n).report (Report.sessionLost loss), s, .goOn .retreating [])
  | fallBack {e : TransportError} : Comes w s value (.refused e)
      (w.report (Report.openFailed w.scenario.manager.endpoint e), s, .goOn .retreating [])
  | retreat {l : Lifecycle ObserverId} : s.setback.2.reconnecting? w.lifecycle = some l →
      Comes w s value .retreating
        ({ w with lifecycle := l }, s.setback.2, .goOn (.retrying s.setback.1) [.flush])
  | tooLateToRetreat : w.lifecycle.epoch ≠ s.epoch → Comes w s value .retreating
      (w.report (Report.superseded .reconnecting s.epoch w.lifecycle.epoch), s.setback.2, .finish)
  | giveUp {l : Lifecycle ObserverId} : s.failed? w.lifecycle = some l →
      Comes w s value (.retrying none)
        ({ w.report (Report.givingUp s.backoff.attempt) with lifecycle := l }, s,
          .goOn .done [.flush])
  | tooLateToGiveUp : w.lifecycle.epoch ≠ s.epoch → Comes w s value (.retrying none)
      ((w.report (Report.givingUp s.backoff.attempt)).report
        (Report.superseded .failed s.epoch w.lifecycle.epoch), s, .finish)
  | delay {delay : Duration} : Comes w s value (.retrying (some delay))
      (w.report (Report.reconnecting delay s.backoff.attempt), s,
        .goOn (.waiting (w.now + delay.ceilMillis)) [])
  | stopWaiting {time : Nat} : w.lifecycle.isStopped s.epoch = true →
      Comes w s value (.waiting time) (w.report Report.retryCancelled, s, .finish)
  | wakeUp {time : Nat} : w.lifecycle.isStopped s.epoch = false → time ≤ w.now →
      Comes w s value (.waiting time) (w, s, .goOn .resuming [])
  | waitOn {time : Nat} : w.lifecycle.isStopped s.epoch = false → w.now < time →
      Comes w s value (.waiting time) (w, s, .wait (.waiting time) [(.delay, time)])
  | resume {l : Lifecycle ObserverId} : s.connecting? w.lifecycle = some l →
      Comes w s value .resuming ({ w with lifecycle := l }, s, .goOn .calling [.flush])
  | tooLateToResume : w.lifecycle.epoch ≠ s.epoch → Comes w s value .resuming
      (w.report (Report.superseded .connecting s.epoch w.lifecycle.epoch), s, .finish)
  -- the connection is closed
  | closed {n : Nat} {requested : Bool} {sending : Sending} :
      sending.result? w.now = some (.ok ()) → Comes w s value (.closing n requested sending)
        (w.note (.sent n .close), s, .goOn (.hangingUp n requested) [])
  | failClose {n : Nat} {requested : Bool} {sending : Sending} {e : TransportError} :
      sending.result? w.now = some (.error e) → Comes w s value (.closing n requested sending)
        (w.report (Report.closeNotSent e), s, .goOn (.hangingUp n requested) [])
  | awaitClose {n : Nat} {requested : Bool} {sending : Sending} :
      sending.result? w.now = none → Comes w s value (.closing n requested sending)
        (w, s, .wait (.closing n requested sending) (sendingAlarms sending))
  | hangUp {n : Nat} {requested : Bool} : Comes w s value (.hangingUp n requested)
      ((w.hangUp n requested).1, s, .finish)
  | done : Comes w s value .done (w, s, .finish)

variable (w : World) (s : Session)

theorem report_lifecycle (r : LogRecord) : (w.report r).lifecycle = w.lifecycle := by
  unfold report
  split <;> rfl

/-- A session that waits for an answer gives up when its time is over. -/
theorem await_comes {a : Activity} {value : Value} {script : OpenScript} {ready : Option Nat}
    {limit : Nat}
    (hexpire : limit ≤ w.now → w.Comes s value a
      (w, s, .goOn (.refused (.timeout w.scenario.manager.config.connectTimeout)) []))
    (hwait : w.now < limit → w.Comes s value a (w, s, .wait (.opening script ready limit)
      ((ready.map fun time => (AlarmKind.answer, time)).toList ++ [(.limit, limit)]))) :
    w.Comes s value a ((w.await script ready limit).1, s, (w.await script ready limit).2) := by
  unfold await
  split
  next hlimit => exact hexpire hlimit
  next hlimit => exact hwait (Nat.lt_of_not_le hlimit)

theorem serve_comes (n : Nat) (h : Heartbeat) (value : Value) :
    w.Comes s value (.serving n h) ((w.serve (w.lifecycle.isStopped s.epoch) n h).1, s,
      (w.serve (w.lifecycle.isStopped s.epoch) n h).2) := by
  simp only [serve, inbox_eq]
  cases hturn : h.turn w.now (w.lifecycle.isStopped s.epoch) (w.inbox n) with
  | stop => exact .stop hturn
  | expire => exact .lapse hturn
  | read item rest =>
      dsimp only
      cases hreading : item.reading with
      | event e => exact .deliver hturn hreading
      | acknowledgement => exact .acknowledge hturn hreading
      | probe length => exact .overhear hturn hreading
      | malformed e => exact .drop hturn hreading
      | «over» loss => exact .cutOff hturn hreading
  | ping => exact .probe hturn
  | wait => exact .idle hturn

/-- The list leaves no outcome out. -/
theorem stepSession_comes (a : Activity) (value : Value) :
    w.Comes s value a (w.stepSession s a value) := by
  have hcontinues : ¬ w.lifecycle.isStopped s.epoch = true →
      w.lifecycle.isStopped s.epoch = false := Bool.eq_false_iff.mpr
  have hlate : ∀ next attempts, w.lifecycle.advance? s.epoch next attempts = none →
      w.lifecycle.epoch ≠ s.epoch := fun _ _ => Lifecycle.advance?_eq_none.mp
  cases a with
  | starting => exact .start
  | calling =>
      simp only [stepSession]
      split
      next hstop => exact .stopCalling hstop
      next hstop => exact .call (hcontinues hstop)
  | opening script ready limit =>
      simp only [stepSession]
      split
      next hstop => exact .stopOpening hstop
      next hstop =>
        have hgoes := hcontinues hstop
        split
        next time =>
          split
          next htime => exact .answer hgoes htime
          next htime =>
            have hready : ∀ t ∈ some time, w.now < t := by
              rintro t ⟨⟩
              exact Nat.lt_of_not_le htime
            exact w.await_comes s (.expire hgoes hready) (.await hgoes hready)
        next =>
          have hready : ∀ t ∈ (none : Option Nat), w.now < t := fun t ht => by cases ht
          exact w.await_comes s (.expire hgoes hready) (.await hgoes hready)
  | answering script limit =>
      simp only [stepSession, answer]
      split
      next hanswer => exact .accept hanswer
      next hanswer => exact .refuse hanswer
      next hanswer => exact w.await_comes s (.giveUpHanging hanswer) (.hang hanswer)
  | accepted n =>
      simp only [stepSession]
      split
      next hl => exact .connect hl
      next hnone => exact .tooLateToConnect (hlate _ _ hnone) rfl
  | greeting n => exact .greet
  | serving n h => exact w.serve_comes s n h value
  | delivered n h type => exact .serveOn
  | pinging n h sending limit =>
      simp only [stepSession, ping]
      split
      next hresult => exact .pinged hresult
      next hresult => exact .failPing hresult
      next hresult =>
        split
        next hlimit => exact .giveUpPing hresult hlimit
        next hlimit => exact .awaitPing hresult (Nat.lt_of_not_le hlimit)
  | losing n loss => exact .lose
  | refused e => exact .fallBack
  | retreating =>
      simp only [stepSession, advance]
      split
      next hl => exact .retreat hl
      next hnone => exact .tooLateToRetreat (hlate _ _ hnone)
  | retrying delay =>
      cases delay with
      | none =>
          simp only [stepSession, advance, report_lifecycle]
          split
          next hl => exact .giveUp hl
          next hnone => exact .tooLateToGiveUp (hlate _ _ hnone)
      | some delay => exact .delay
  | waiting time =>
      simp only [stepSession]
      split
      next hstop => exact .stopWaiting hstop
      next hstop =>
        split
        next htime => exact .wakeUp (hcontinues hstop) htime
        next htime => exact .waitOn (hcontinues hstop) (Nat.lt_of_not_le htime)
  | resuming =>
      simp only [stepSession, advance]
      split
      next hl => exact .resume hl
      next hnone => exact .tooLateToResume (hlate _ _ hnone)
  | closing n requested sending =>
      simp only [stepSession, close]
      split
      next hresult => exact .closed hresult
      next hresult => exact .failClose hresult
      next hresult => exact .awaitClose hresult
  | hangingUp n requested => exact .hangUp
  | done => exact .done

variable {w s} {a : Activity} {value : Value} {r : World × Session × Progress}

/-- No two outcomes meet their conditions at once. -/
theorem Comes.eq (h : w.Comes s value a r) : w.stepSession s a value = r := by
  have hnone : ∀ {next attempts}, w.lifecycle.epoch ≠ s.epoch →
      w.lifecycle.advance? s.epoch next attempts = none := Lifecycle.advance?_eq_none.mpr
  cases h with
  | start | greet | serveOn | lose | fallBack | delay | hangUp | done => rfl
  | stopCalling hstop | call hstop | stopOpening hstop | stopWaiting hstop =>
      simp [stepSession, hstop]
  | answer hgoes htime | wakeUp hgoes htime => simp [stepSession, hgoes, htime]
  | waitOn hgoes htime => simp [stepSession, hgoes, Nat.not_le.mpr htime]
  | @expire _ ready _ hgoes hready hlimit =>
      cases ready with
      | none => simp [stepSession, World.await, hgoes, hlimit]
      | some => simp [stepSession, World.await, hgoes, hlimit, hready]
  | @await _ ready _ hgoes hready hlimit =>
      cases ready with
      | none => simp [stepSession, World.await, hgoes, Nat.not_le.mpr hlimit]
      | some => simp [stepSession, World.await, hgoes, Nat.not_le.mpr hlimit, hready]
  | accept hanswer | refuse hanswer => simp [stepSession, World.answer, hanswer]
  | hang hanswer hlimit =>
      simp [stepSession, World.answer, World.await, hanswer, Nat.not_le.mpr hlimit]
  | giveUpHanging hanswer hlimit =>
      simp [stepSession, World.answer, World.await, hanswer, hlimit]
  | connect hl => simp [stepSession, hl]
  | tooLateToConnect hlate hreported =>
      have hl : s.opened.connected? w.lifecycle = none := hnone hlate
      simp [stepSession, startClosing, hl, ← hreported]
  | stop hturn | lapse hturn | probe hturn | idle hturn =>
      simp [stepSession, serve, startClosing, inbox_eq, hturn]
  | deliver hturn hreading | acknowledge hturn hreading | overhear hturn hreading
  | drop hturn hreading | cutOff hturn hreading =>
      simp [stepSession, serve, inbox_eq, hturn, hreading]
  | pinged hresult | failPing hresult => simp [stepSession, ping, hresult]
  | giveUpPing hresult hlimit => simp [stepSession, ping, hresult, hlimit]
  | awaitPing hresult hlimit => simp [stepSession, ping, hresult, Nat.not_le.mpr hlimit]
  | retreat hl | resume hl => simp [stepSession, advance, hl]
  | giveUp hl => simp [stepSession, advance, report_lifecycle, hl]
  | tooLateToRetreat hlate =>
      have hl : s.setback.2.reconnecting? w.lifecycle = none := hnone hlate
      have hepoch : s.setback.2.epoch = s.epoch := rfl
      simp [stepSession, advance, hl, hepoch]
  | tooLateToResume hlate =>
      have hl : s.connecting? w.lifecycle = none := hnone hlate
      simp [stepSession, advance, hl]
  | tooLateToGiveUp hlate =>
      have hl : s.failed? w.lifecycle = none := hnone hlate
      simp [stepSession, advance, report_lifecycle, hl]
  | closed hresult | failClose hresult | awaitClose hresult => simp [stepSession, close, hresult]

/-! ## Sessions that go on -/

section Run

variable {epoch : UInt64} {task : Task} {w' : World} {s' : Session}

theorem runSession_absent (htask : w.task? epoch = none) (below : List Call) :
    w.runSession epoch value below = (w, below) := by
  simp only [runSession, htask]

theorem runSession_goOn {calls : List Call} (htask : w.task? epoch = some task)
    (hstep : w.stepSession task.session task.activity value = (w', s', .goOn a calls))
    (below : List Call) :
    w.runSession epoch value below =
      (w'.setTask ⟨s', a, task.alarms.filter fun alarm => a.keeps alarm.kind⟩,
        calls ++ .session epoch :: below) := by
  simp only [runSession, htask, hstep]

theorem runSession_wait {alarms : List (AlarmKind × Nat)} (htask : w.task? epoch = some task)
    (hstep : w.stepSession task.session task.activity value = (w', s', .wait a alarms))
    (below : List Call) :
    w.runSession epoch value below = (w'.setAlarms ⟨s', a, task.alarms⟩ alarms, below) := by
  simp only [runSession, htask, hstep]

theorem runSession_finish (htask : w.task? epoch = some task)
    (hstep : w.stepSession task.session task.activity value = (w', s', .finish))
    (below : List Call) :
    w.runSession epoch value below = (w'.removeTask epoch, below) := by
  simp only [runSession, htask, hstep]

end Run

end Simulation.World

end EventFeed
