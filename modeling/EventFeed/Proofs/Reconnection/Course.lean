import EventFeed.Proofs.Interleaving.Session

/-! # The course of a session

What a session goes through as long as it is the current one and has not been told to stop. From
every activity there are a few that can come next, and each change of state has its place.
-/

namespace EventFeed.Simulation

namespace Activity

def isServing : Activity → Bool
  | serving .. | delivered .. | pinging .. => true
  | _ => false

def isLosing : Activity → Bool
  | losing .. => true
  | _ => false

end Activity

/-- The activities at which a session can wait, and what it waits for at the latest. -/
inductive World.Awaits (w : World) (alarms : List (AlarmKind × Nat)) : Activity → Prop
  | answer {script : OpenScript} {ready : Option Nat} {limit : Nat} :
      (∀ time ∈ ready, w.now < time) → (.limit, limit) ∈ alarms →
      Awaits w alarms (.opening script ready limit)
  | hang {script : OpenScript} {limit : Nat} : script.answer = .hang → (.limit, limit) ∈ alarms →
      Awaits w alarms (.answering script limit)
  | serve {a : Activity} : a.isServing = true → Awaits w alarms a
  | delay {time : Nat} : (.delay, time) ∈ alarms → Awaits w alarms (.waiting time)

/-- The activities to which a session can come at a time without a change of state. -/
inductive World.Leads (w : World) : Activity → Activity → Prop
  | start : Leads w .starting .calling
  | answer {script : OpenScript} {time limit : Nat} : time ≤ w.now →
      Leads w (.opening script (some time) limit) (.answering script limit)
  | await {script : OpenScript} {ready : Option Nat} {limit : Nat} :
      (∀ time ∈ ready, w.now < time) → w.now < limit →
      Leads w (.opening script ready limit) (.opening script ready limit)
  | expire {script : OpenScript} {ready : Option Nat} {limit : Nat} {e : TransportError} :
      (∀ time ∈ ready, w.now < time) → limit ≤ w.now →
      Leads w (.opening script ready limit) (.refused e)
  | accept {script : OpenScript} {limit n : Nat} : script.answer = .accept →
      Leads w (.answering script limit) (.accepted n)
  | refuse {script : OpenScript} {limit : Nat} {message : String} {e : TransportError} :
      script.answer = .refuse message → Leads w (.answering script limit) (.refused e)
  | hang {script : OpenScript} {limit : Nat} : script.answer = .hang → w.now < limit →
      Leads w (.answering script limit) (.opening script none limit)
  | give {script : OpenScript} {limit : Nat} {e : TransportError} : script.answer = .hang →
      limit ≤ w.now → Leads w (.answering script limit) (.refused e)
  | greet {n : Nat} {h : Heartbeat} : Leads w (.greeting n) (.serving n h)
  | serve {a b : Activity} : a.isServing = true → b.isServing = true → Leads w a b
  | lose {a b : Activity} : a.isServing = true → b.isLosing = true → Leads w a b
  | retreat {a : Activity} : a.isLosing = true ∨ (∃ e, a = .refused e) → Leads w a .retreating
  | delay {d : Duration} : Leads w (.retrying (some d)) (.waiting (w.now + d.ceilMillis))
  | wait {time : Nat} : w.now < time → Leads w (.waiting time) (.waiting time)
  | resume {time : Nat} : time ≤ w.now → Leads w (.waiting time) .resuming

/-- What a session at an activity goes through in a step: the session, the activity, the answers
that are left, and the state after the step. -/
inductive World.Course (w : World) (s : Session) :
    Activity → Session → Activity → List OpenScript → ConnectionState → Prop
  | quiet {a b : Activity} : w.Leads a b → Course w s a s b w.opens w.lifecycle.state
  | call {script : OpenScript} : script = w.opens.head?.getD w.scenario.fallback →
      Course w s .calling s (.opening script (some (w.now + script.delay))
        (w.now + w.scenario.manager.config.connectTimeoutMs.toNat)) w.opens.tail w.lifecycle.state
  | connect {n : Nat} : Course w s (.accepted n) s.opened (.greeting n) w.opens .connected
  | retreat : Course w s .retreating s.setback.2 (.retrying s.setback.1) w.opens .reconnecting
  | fail : Course w s (.retrying none) s .done w.opens .failed
  | resume : Course w s .resuming s .calling w.opens .connecting

namespace World

variable {w : World} {s : Session} {a : Activity}

/-- The session is the current one, has not been told to stop, and knows the state. -/
structure InCharge (w : World) (s : Session) (a : Activity) : Prop where
  epoch : w.lifecycle.epoch = s.epoch
  owner : w.lifecycle.owner = some s.epoch
  state : a.admits w.lifecycle.state = true

theorem InCharge.not_stopped (h : w.InCharge s a) : w.lifecycle.isStopped s.epoch = false := by
  simp [Lifecycle.isStopped, h.owner]

/-- The result of a step of a session in charge. -/
structure Runs (w : World) (s : Session) (a : Activity) (r : World × Session × Progress) :
    Prop where
  course : ∀ b ∈ r.2.2.activity?, w.Course s a r.2.1 b r.1.opens r.1.lifecycle.state
  finish : r.2.2.activity? = none → a = .done

theorem runs_of_leads {w' : World} {progress : Progress} {b : Activity}
    (hsame : w.SameManager w') (hb : progress.activity? = some b) (hleads : w.Leads a b) :
    w.Runs s a (w', s, progress) where
  course := by
    intro b' hb'
    obtain rfl := Option.some.inj (hb.symm.trans hb')
    rw [hsame.opens, hsame.lifecycle]
    exact .quiet hleads
  finish := fun hnone => by rw [hb] at hnone; cases hnone

/-- A change of state by a session in charge. -/
theorem runs_of_change {w' : World} {s' : Session} {next : ConnectionState} {b : Activity}
    {attempts : Option UInt32} {l : Lifecycle ObserverId} (hopens : w'.opens = w.opens)
    (hl : w.lifecycle.advance? s.epoch next attempts = some l)
    (hcourse : w.Course s a s' b w.opens next) :
    w.Runs s a ({ w' with lifecycle := l }, s', .goOn b [.flush]) where
  course := by
    obtain ⟨_, rfl⟩ := Lifecycle.advance?_eq_some.mp hl
    intro b' hb'
    obtain rfl := Option.some.inj hb'
    simpa [hopens] using hcourse
  finish := fun hnone => by cases hnone

/-- A session in charge keeps its course. -/
theorem stepSession_runs (h : w.InCharge s a) (value : Value) :
    w.Runs s a (w.stepSession s a value) := by
  have hrefl := SameManager.refl w
  have hstop := h.not_stopped
  have hcomes := w.stepSession_comes s a value
  generalize w.stepSession s a value = r at hcomes ⊢
  cases hcomes with
  | start => exact runs_of_leads (w.report_same _) rfl .start
  | call => exact ⟨fun b hb => Option.some.inj hb ▸ .call rfl, fun hnone => by cases hnone⟩
  | stopCalling hstopped | stopOpening hstopped | stopWaiting hstopped =>
      rw [hstop] at hstopped
      cases hstopped
  | answer _ htime => exact runs_of_leads hrefl rfl (.answer htime)
  | expire _ hready hlimit => exact runs_of_leads hrefl rfl (.expire hready hlimit)
  | await _ hready hlimit => exact runs_of_leads hrefl rfl (.await hready hlimit)
  | accept hanswer => exact runs_of_leads ⟨rfl, rfl, rfl, rfl, rfl⟩ rfl (.accept hanswer)
  | refuse hanswer => exact runs_of_leads hrefl rfl (.refuse hanswer)
  | hang hanswer hlimit => exact runs_of_leads hrefl rfl (.hang hanswer hlimit)
  | giveUpHanging hanswer hlimit => exact runs_of_leads hrefl rfl (.give hanswer hlimit)
  | connect hl => exact runs_of_change rfl hl .connect
  | retreat hl => exact runs_of_change rfl hl .retreat
  | giveUp hl => exact runs_of_change (w.report_same _).opens hl .fail
  | resume hl => exact runs_of_change rfl hl .resume
  | tooLateToConnect hlate | tooLateToRetreat hlate | tooLateToGiveUp hlate
  | tooLateToResume hlate => exact absurd h.epoch hlate
  | greet => exact runs_of_leads (w.report_same _) rfl .greet
  | stop hturn =>
      rw [hstop] at hturn
      cases Heartbeat.stopped_of_turn hturn
  | lapse | failPing | giveUpPing => exact runs_of_leads hrefl rfl (.lose rfl rfl)
  | cutOff => exact runs_of_leads (w.setInbox_same _ _) rfl (.lose rfl rfl)
  | deliver | acknowledge => exact runs_of_leads (w.setInbox_same _ _) rfl (.serve rfl rfl)
  | overhear | drop =>
      exact runs_of_leads ((w.setInbox_same _ _).trans (report_same _ _)) rfl (.serve rfl rfl)
  | probe => exact runs_of_leads (w.startSend_same _) rfl (.serve rfl rfl)
  | idle | awaitPing => exact runs_of_leads hrefl rfl (.serve rfl rfl)
  | serveOn => exact runs_of_leads (w.reportUnheard_same _ _) rfl (.serve rfl rfl)
  | pinged => exact runs_of_leads ((w.note_same _).trans (report_same _ _)) rfl (.serve rfl rfl)
  | lose =>
      exact runs_of_leads ((w.release_same _).trans (report_same _ _)) rfl (.retreat (.inl rfl))
  | fallBack => exact runs_of_leads (w.report_same _) rfl (.retreat (.inr ⟨_, rfl⟩))
  | delay => exact runs_of_leads (w.report_same _) rfl .delay
  | wakeUp _ htime => exact runs_of_leads hrefl rfl (.resume htime)
  | waitOn _ htime => exact runs_of_leads hrefl rfl (.wait htime)
  | done => exact ⟨fun b hb => (by cases hb), fun _ => rfl⟩
  | closed | failClose | awaitClose | hangUp => cases h.state

/-- A session in charge that can only wait waits for one of a few things. -/
theorem stepSession_awaits {b : Activity} {alarms : List (AlarmKind × Nat)} {value : Value}
    (h : w.InCharge s a) (hwait : (w.stepSession s a value).2.2 = .wait b alarms) :
    w.Awaits alarms a := by
  have hcomes := w.stepSession_comes s a value
  generalize w.stepSession s a value = r at hcomes hwait
  cases hcomes with
  | await _ hready =>
      obtain ⟨_, rfl⟩ := Progress.wait.inj hwait
      exact .answer hready (by simp)
  | hang hanswer =>
      obtain ⟨_, rfl⟩ := Progress.wait.inj hwait
      exact .hang hanswer (List.mem_singleton.mpr rfl)
  | idle | awaitPing => exact .serve rfl
  | waitOn =>
      obtain ⟨_, rfl⟩ := Progress.wait.inj hwait
      exact .delay (List.mem_singleton.mpr rfl)
  | awaitClose => cases h.state
  | _ => cases hwait

end World

end EventFeed.Simulation
