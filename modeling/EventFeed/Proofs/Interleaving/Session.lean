import EventFeed.Proofs.Interleaving.Outcomes
import EventFeed.Proofs.Interleaving.Stack

/-! # What a step of a session can do

Most steps of a session do not concern the lifecycle. Those that change the state do so on behalf of
the session's epoch, and from an activity which knows what the state is as long as the session has
not been superseded.
-/

namespace EventFeed.Simulation

/-! ## Worlds with the same manager -/

/-- Two worlds differ at most in their connections, their subscriptions, the memory of their
callbacks, and the journal. -/
structure World.SameManager (w w' : World) : Prop where
  lifecycle : w'.lifecycle = w.lifecycle
  tasks : w'.tasks = w.tasks
  opens : w'.opens = w.opens
  scenario : w'.scenario = w.scenario
  now : w'.now = w.now

namespace World

variable {w w' w'' : World}

theorem SameManager.refl (w : World) : w.SameManager w := ⟨rfl, rfl, rfl, rfl, rfl⟩

theorem SameManager.trans (h : w.SameManager w') (h' : w'.SameManager w'') :
    w.SameManager w'' :=
  ⟨h'.lifecycle.trans h.lifecycle, h'.tasks.trans h.tasks, h'.opens.trans h.opens,
    h'.scenario.trans h.scenario, h'.now.trans h.now⟩

theorem note_same (w : World) (e : Entry) : w.SameManager (w.note e) :=
  ⟨rfl, rfl, rfl, rfl, rfl⟩

theorem report_same (w : World) (r : LogRecord) : w.SameManager (w.report r) := by
  unfold report
  split
  · exact w.note_same _
  · exact .refl w

theorem setLink_same (w : World) (n : Nat) (link : Link) : w.SameManager (w.setLink n link) :=
  ⟨rfl, rfl, rfl, rfl, rfl⟩

theorem release_same (w : World) (n : Nat) : w.SameManager (w.release n) := by
  unfold release
  split
  · exact (w.setLink_same _ _).trans (note_same _ _)
  · exact .refl w

theorem setInbox_same (w : World) (n : Nat) (inbox : List Inbound) :
    w.SameManager (w.setInbox n inbox) := by
  unfold setInbox
  split
  · exact w.setLink_same _ _
  · exact .refl w

theorem startSend_same (w : World) (n : Nat) : w.SameManager (w.startSend n).2 := by
  unfold startSend
  split
  · exact w.setLink_same _ _
  · exact .refl w

theorem enqueue_same (w : World) (epoch : UInt64) : w.SameManager (w.enqueue epoch) := by
  unfold enqueue
  split
  · exact ⟨rfl, rfl, rfl, rfl, rfl⟩
  · exact .refl w

theorem wake_same (w : World) (epoch : UInt64) : w.SameManager (w.wake epoch) := by
  unfold wake
  split
  · exact ⟨rfl, rfl, rfl, rfl, rfl⟩
  · exact w.enqueue_same epoch

theorem wakeOwner_same (w : World) : w.SameManager w.wakeOwner := by
  unfold wakeOwner
  split
  · exact w.wake_same _
  · exact .refl w

theorem receive_same (w : World) (item : Inbound) (n : Nat) :
    w.SameManager (w.receive item n).2 := by
  unfold receive
  split
  · split
    · exact .refl w
    · dsimp only
      split
      · exact (w.setLink_same _ _).trans (wake_same _ _)
      · exact w.setLink_same _ _
  · exact .refl w

theorem changeRegistry_same (w : World) (type : EventType)
    (change : Registry.Change × Registry HandlerId) :
    w.SameManager (w.changeRegistry type change) := by
  have hset : w.SameManager { w with registry := change.2 } := ⟨rfl, rfl, rfl, rfl, rfl⟩
  unfold changeRegistry
  dsimp only
  split
  · exact hset.trans (report_same _ _)
  · exact hset

end World

/-! ## The activities of a session -/

namespace Activity

/-- The states in which the connection can be while its own session is at an activity. -/
def admits : Activity → ConnectionState → Bool
  | starting | calling | opening .. | answering .. | accepted _ | refused _ => (· == .connecting)
  | greeting _ | serving .. | delivered .. | pinging .. | losing .. => (· == .connected)
  | retreating => fun state => state == .connecting || state == .connected
  | retrying _ | waiting _ | resuming => (· == .reconnecting)
  | closing .. | hangingUp .. => fun _ => false
  | done => (· == .failed)

/-- The change of state that a session at an activity is about to make. -/
def next? : Activity → Option ConnectionState
  | accepted _ => some .connected
  | retreating => some .reconnecting
  | retrying none => some .failed
  | resuming => some .connecting
  | _ => none

/-- A session that goes from one activity to another takes the connection to be in no other state.
-/
def Continues (a b : Activity) : Prop := ∀ state, a.admits state = true → b.admits state = true

/-- The attempt to open a connection that is under way at an activity. -/
def script? : Activity → Option OpenScript
  | opening script .. | answering script .. => some script
  | _ => none

/-- The calls to which a session at an activity can come without a change of state. -/
def Leads (a : Activity) (calls : List Call) : Prop :=
  calls = [] ∨ (∃ event, calls = [.deliver event]) ∨
    ∃ script, a.script? = some script ∧ calls = [.actions script.actions]

theorem Leads.plain {a : Activity} {calls : List Call} (h : a.Leads calls) :
    ∀ c ∈ calls, c.role = .plain := by
  rcases h with rfl | ⟨event, rfl⟩ | ⟨script, _, rfl⟩ <;> simp [Call.role]

end Activity

/-- What a step of the session of an epoch can do with the lifecycle, and how it goes on. -/
inductive Activity.Acts (a : Activity) (epoch : UInt64) (l : Lifecycle ObserverId) :
    Lifecycle ObserverId → Progress → Prop
  /-- It goes on, with no say about the state. -/
  | goOn {b : Activity} {calls : List Call} : a.Continues b → a.Leads calls →
      Acts a epoch l l (.goOn b calls)
  | wait {b : Activity} {alarms : List (AlarmKind × Nat)} : a.Continues b →
      Acts a epoch l l (.wait b alarms)
  /-- It changes the state, which has to be told. -/
  | change {b : Activity} {next : ConnectionState} {attempts : Option UInt32}
      {l' : Lifecycle ObserverId} : a.next? = some next → b.admits next = true →
      l.advance? epoch next attempts = some l' → Acts a epoch l l' (.goOn b [.flush])
  /-- It has been told to stop or superseded, and closes its connection. -/
  | leave {b : Activity} : l.isStopped epoch = true ∨ l.epoch ≠ epoch →
      Acts a epoch l l (.goOn b [])
  | finish : l.isStopped epoch = true ∨ l.epoch ≠ epoch ∨
      (∀ state, a.admits state = true → state = .failed) → Acts a epoch l l .finish

/-- The activity to which a step of a session leads, unless the session ends. -/
def Progress.activity? : Progress → Option Activity
  | .goOn b _ | .wait b _ => some b
  | .finish => none

namespace Activity.Acts

variable {a b : Activity} {epoch : UInt64} {l l' : Lifecycle ObserverId} {progress : Progress}

theorem epoch_eq (h : a.Acts epoch l l' progress) : l'.epoch = l.epoch ∧ l'.owner = l.owner := by
  cases h with
  | change _ _ hadvance =>
      obtain ⟨_, rfl⟩ := Lifecycle.advance?_eq_some.mp hadvance
      simp
  | _ => exact ⟨rfl, rfl⟩

theorem observers_eq (h : a.Acts epoch l l' progress) : l'.observers = l.observers := by
  cases h with
  | change _ _ hadvance =>
      obtain ⟨_, rfl⟩ := Lifecycle.advance?_eq_some.mp hadvance
      simp
  | _ => rfl

theorem eq_of_superseded (h : a.Acts epoch l l' progress) (hepoch : l.epoch ≠ epoch) : l' = l := by
  cases h with
  | change _ _ hadvance => exact absurd (Lifecycle.advance?_eq_some.mp hadvance).1 hepoch
  | _ => rfl

/-- A session ends with no change of its own. -/
theorem eq_of_finish (h : a.Acts epoch l l' .finish) : l' = l := by
  cases h
  rfl

/-- A session that has not been superseded and goes on knows what the state is. -/
theorem admits (h : a.Acts epoch l l' progress) (hb : progress.activity? = some b)
    (hepoch : l.epoch = epoch) (howner : l.owner = some epoch) (ha : a.admits l.state = true) :
    b.admits l'.state = true := by
  cases h with
  | goOn hcontinues => exact Option.some.inj hb ▸ hcontinues _ ha
  | wait hcontinues => exact Option.some.inj hb ▸ hcontinues _ ha
  | change _ hnext hadvance =>
      obtain ⟨_, rfl⟩ := Lifecycle.advance?_eq_some.mp hadvance
      rw [Lifecycle.setState_state]
      exact Option.some.inj hb ▸ hnext
  | leave hleft => simp [Lifecycle.isStopped, howner, hepoch] at hleft
  | finish => cases hb

end Activity.Acts

namespace World

/-- A result of a session's step: the other tasks, the clock and what is fixed are as they were, and
no answer has come from nowhere. -/
structure Steps (w : World) (s : Session) (a : Activity) (r : World × Session × Progress) :
    Prop where
  tasks : r.1.tasks = w.tasks
  scenario : r.1.scenario = w.scenario
  now : r.1.now = w.now
  opens : r.1.opens ⊆ w.opens
  epoch : r.2.1.epoch = s.epoch
  acts : a.Acts s.epoch w.lifecycle r.1.lifecycle r.2.2

variable {w w' : World} {s : Session} {a b : Activity} {epoch : UInt64}

theorem SameManager.steps {s' : Session} {progress : Progress} (h : w.SameManager w')
    (hepoch : s'.epoch = s.epoch) (hacts : a.Acts s.epoch w.lifecycle w.lifecycle progress) :
    w.Steps s a (w', s', progress) where
  tasks := h.tasks
  scenario := h.scenario
  now := h.now
  opens := by rw [h.opens]; exact List.Subset.refl _
  epoch := hepoch
  acts := by rw [h.lifecycle]; exact hacts

theorem SameManager.goesOn (h : w.SameManager w') (hb : a.Continues b) :
    w.Steps s a (w', s, .goOn b []) := h.steps rfl (.goOn hb (Or.inl rfl))

theorem SameManager.waits (h : w.SameManager w') (hb : a.Continues b)
    (alarms : List (AlarmKind × Nat)) : w.Steps s a (w', s, .wait b alarms) :=
  h.steps rfl (.wait hb)

/-- A change of state that a session makes, besides what it reports. -/
theorem SameManager.changes {s' : Session} {next : ConnectionState} {attempts : Option UInt32}
    {l : Lifecycle ObserverId} (h : w.SameManager w') (hepoch : s'.epoch = s.epoch)
    (hnext : a.next? = some next) (hb : b.admits next = true)
    (hl : w.lifecycle.advance? s.epoch next attempts = some l) :
    w.Steps s a ({ w' with lifecycle := l }, s', .goOn b [.flush]) where
  tasks := h.tasks
  scenario := h.scenario
  now := h.now
  opens := by rw [← h.opens]; exact List.Subset.refl _
  epoch := hepoch
  acts := .change hnext hb hl

theorem reportUnheard_same (w : World) (type : EventType) (value : Value) :
    w.SameManager (w.reportUnheard type value) := by
  unfold reportUnheard
  split
  · split
    · exact w.report_same _
    · exact .refl w
  · exact .refl w

theorem hangUp_same (w : World) (n : Nat) (requested : Bool) :
    w.SameManager (w.hangUp n requested).1 := by
  have hnote := w.note_same (.sinkClosed n)
  have hfailed := fun message =>
    hnote.trans (report_same _ (Report.closeFailed (.send message)))
  unfold hangUp
  dsimp only
  split
  · split
    · exact ((hfailed _).trans (release_same _ _)).trans (report_same _ _)
    · exact (hnote.trans (release_same _ _)).trans (report_same _ _)
  · split
    · exact (hfailed _).trans (release_same _ _)
    · exact hnote.trans (release_same _ _)

theorem stepSession_steps (w : World) (s : Session) (a : Activity) (value : Value) :
    w.Steps s a (w.stepSession s a value) := by
  have hrefl := SameManager.refl w
  have htaken : w.takeOpen.opens ⊆ w.opens := (List.tail_sublist _).subset
  have hcomes := w.stepSession_comes s a value
  generalize w.stepSession s a value = r at hcomes ⊢
  cases hcomes with
  | start | greet => exact (w.report_same _).goesOn fun state h => h
  | stopCalling hstop =>
      have hreport := w.takeOpen.report_same Report.stoppedConnecting
      exact ⟨hreport.tasks, hreport.scenario, hreport.now, by rw [hreport.opens]; exact htaken, rfl,
        by rw [hreport.lifecycle]; exact .finish (.inl hstop)⟩
  | call => exact ⟨rfl, rfl, rfl, htaken, rfl, .goOn (fun state h => h) (.inl rfl)⟩
  | stopOpening hstop | stopWaiting hstop =>
      exact (w.report_same _).steps rfl (.finish (.inl hstop))
  | answer => exact hrefl.steps rfl (.goOn (fun state h => h) (.inr (.inr ⟨_, rfl, rfl⟩)))
  | expire | refuse | giveUpHanging | lapse | failPing | giveUpPing | wakeUp =>
      exact hrefl.goesOn fun state h => h
  | await | idle | awaitPing | waitOn | awaitClose => exact hrefl.waits (fun state h => h) _
  | hang =>
      refine hrefl.waits ?_ _
      exact fun state h => h
  | accept => exact SameManager.goesOn ⟨rfl, rfl, rfl, rfl, rfl⟩ fun state h => h
  | connect hl | retreat hl | resume hl => exact hrefl.changes rfl rfl rfl hl
  | giveUp hl => exact (w.report_same _).changes rfl rfl rfl hl
  | tooLateToConnect hlate hreported =>
      subst hreported
      exact ((w.report_same _).trans (startSend_same _ _)).steps rfl (.leave (.inr hlate))
  | tooLateToRetreat hlate | tooLateToResume hlate =>
      exact (w.report_same _).steps rfl (.finish (.inr (.inl hlate)))
  | tooLateToGiveUp hlate =>
      exact ((w.report_same _).trans (report_same _ _)).steps rfl (.finish (.inr (.inl hlate)))
  | stop hturn =>
      have hstopped := Heartbeat.stopped_of_turn hturn
      exact (w.startSend_same _).steps rfl (.leave (.inl hstopped))
  | deliver =>
      exact (w.setInbox_same _ _).steps rfl (.goOn (fun state h => h) (.inr (.inl ⟨_, rfl⟩)))
  | acknowledge | cutOff => exact (w.setInbox_same _ _).goesOn fun state h => h
  | overhear | drop =>
      exact ((w.setInbox_same _ _).trans (report_same _ _)).goesOn fun state h => h
  | probe => exact (w.startSend_same _).goesOn fun state h => h
  | serveOn => exact (w.reportUnheard_same _ _).goesOn fun state h => h
  | pinged => exact ((w.note_same _).trans (report_same _ _)).goesOn fun state h => h
  | lose =>
      refine ((w.release_same _).trans (report_same _ _)).goesOn fun state h => ?_
      simp_all [Activity.admits]
  | fallBack =>
      refine (w.report_same _).goesOn fun state h => ?_
      simp_all [Activity.admits]
  | delay | failClose => exact (w.report_same _).goesOn fun state h => h
  | closed => exact (w.note_same _).goesOn fun state h => h
  | hangUp =>
      exact (w.hangUp_same _ _).steps rfl
        (.finish (.inr (.inr fun state h => by simp [Activity.admits] at h)))
  | done =>
      exact hrefl.steps rfl
        (.finish (.inr (.inr fun state h => by simpa [Activity.admits] using h)))

end World

end EventFeed.Simulation
