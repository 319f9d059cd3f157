import EventFeed.Proofs.Interleaving.Session

/-! # What a step of a thread can do

Every step of a thread is of one of a few kinds, according to what it has to do with the lifecycle
and with the queue of changes. Properties of runs are proved for each kind of step, and not for each
kind of call.
-/

namespace EventFeed.Simulation

/-- The calls of a thread after a step of a session. -/
def Progress.calls (epoch : UInt64) (below : List Call) : Progress → List Call
  | .goOn _ calls => calls ++ .session epoch :: below
  | .wait .. | .finish => below

/-- Whether a call is a callback that may break off by itself. -/
def Call.mayBreak : Call → Bool
  | .handled .. | .observer .. | .observed _ => true
  | _ => false

/-- Whether a callback that breaks off above these calls does so without breaking off a session. -/
def sheltered : List Call → Bool
  | [] | .handlers .. :: _ | .observers .. :: _ => true
  | .session _ :: _ => false
  | _ :: calls => sheltered calls

/-- The kinds of steps that a thread takes in a world: the calls before it, the world after it, and
the calls after it. -/
inductive World.Does (w : World) : List Call → World → List Call → Prop
  | nothing : Does w [] w []
  /-- Plain calls on top are exchanged for others. -/
  | plain {w' : World} {popped more calls : List Call} : w.SameManager w' → popped ≠ [] →
      (∀ c ∈ popped, c.role = .plain) → (∀ c ∈ more, c.role = .plain) →
      Does w (popped ++ calls) w' (more ++ calls)
  | connect {w' : World} {l : Lifecycle ObserverId} {rest : List Action} {calls : List Call} :
      w.lifecycle.connect? = some l →
      ({ w with
        lifecycle := l
        tasks := w.tasks ++ [{ session := .start w.scenario.manager.config l.epoch }]
      } : World).SameManager w' →
      Does w (.actions (.connect :: rest) :: calls) w'
        (.flush :: .yielded .connect :: .actions rest :: calls)
  | disconnect {w' : World} {rest : List Action} {calls : List Call} :
      ({ w with lifecycle := w.lifecycle.disconnect } : World).SameManager w' →
      Does w (.actions (.disconnect :: rest) :: calls) w'
        (.flush :: .yielded .disconnect :: .actions rest :: calls)
  | observe {o : ObserverId} {l : Lifecycle ObserverId} {rest : List Action}
      {calls : List Call} : w.lifecycle.addObserver? o = some l →
      Does w (.actions (.observe o :: rest) :: calls) { w with lifecycle := l }
        (.yielded (.observe o) :: .actions rest :: calls)
  | unobserve {o : ObserverId} {rest : List Action} {calls : List Call} :
      Does w (.actions (.unobserve o :: rest) :: calls)
        { w with lifecycle := w.lifecycle.removeObserver o }
        (.yielded (.unobserve o) :: .actions rest :: calls)
  /-- Another thread is at the queue. -/
  | busy {calls : List Call} : w.lifecycle.draining = true → Does w (.flush :: calls) w calls
  | enter {calls : List Call} : w.lifecycle.draining = false →
      Does w (.flush :: calls) { w with lifecycle := { w.lifecycle with draining := true } }
        (.drain :: calls)
  | take {w' : World} {t : Transition} {rest : List Transition} {calls : List Call} :
      w.lifecycle.pending = t :: rest →
      ({ w with lifecycle := { w.lifecycle with pending := rest } } : World).SameManager w' →
      Does w (.drain :: calls) w' (.observers t.next w.lifecycle.observers :: .drain :: calls)
  | depart {calls : List Call} : w.lifecycle.pending = [] →
      Does w (.drain :: calls) { w with lifecycle := { w.lifecycle with draining := false } } calls
  | tell {next : ConnectionState} {o : ObserverId} {rest : List ObserverId} {calls : List Call} :
      Does w (.observers next (o :: rest) :: calls) w
        (.observer o next :: .observers next rest :: calls)
  /-- All observers have been told of a change. -/
  | ceased {next : ConnectionState} {calls : List Call} :
      Does w (.observers next [] :: calls) w calls
  /-- The task of a session that has ended is not there. -/
  | absent {epoch : UInt64} {calls : List Call} : w.task? epoch = none →
      Does w (.session epoch :: calls) w calls
  | session {epoch : UInt64} {task task' : Task} {value : Value} {w₁ w' : World}
      {progress : Progress} {calls : List Call} : w.task? epoch = some task →
      w.stepSession task.session task.activity value = (w₁, task'.session, progress) →
      progress.activity? = some task'.activity → (w₁.setTask task').SameManager w' →
      Does w (.session epoch :: calls) w' (progress.calls epoch calls)
  | finish {epoch : UInt64} {task : Task} {value : Value} {s : Session} {w₁ : World}
      {calls : List Call} : w.task? epoch = some task →
      w.stepSession task.session task.activity value = (w₁, s, .finish) →
      Does w (.session epoch :: calls) (w₁.removeTask epoch) calls
  /-- A callback breaks off its session. -/
  | broken {c : Call} {popped : List Call} {epoch : UInt64} : c.mayBreak = true →
      sheltered (popped ++ [.session epoch]) = false → (∀ d ∈ c :: popped, d.role = .plain) →
      Does w (c :: popped ++ [.session epoch]) (w.removeTask epoch) []

namespace World

variable {w w' : World} {c : Call} {calls more : List Call}

theorem SameManager.does (h : w.SameManager w') (hc : c.role = .plain)
    (hmore : ∀ d ∈ more, d.role = .plain) : w.Does (c :: calls) w' (more ++ calls) := by
  have hpopped : ∀ d ∈ [c], d.role = .plain := by simpa using hc
  exact .plain h (List.cons_ne_nil c []) hpopped hmore

theorem SameManager.pops (h : w.SameManager w') (hc : c.role = .plain) :
    w.Does (c :: calls) w' calls := h.does hc (List.forall_mem_nil _)

theorem SameManager.becomes {d : Call} (h : w.SameManager w') (hc : c.role = .plain)
    (hd : d.role = .plain) : w.Does (c :: calls) w' (d :: calls) := by
  have hmore : ∀ d' ∈ [d], d'.role = .plain := by simpa using hd
  exact h.does hc hmore

/-- Breaking off goes down, over plain calls, to the nearest call that takes note of it. -/
theorem unwind_does (w : World) (c : Call) (popped calls : List Call) (hbreak : c.mayBreak = true)
    (hsheltered : sheltered (popped ++ calls) = sheltered calls)
    (hpopped : ∀ d ∈ c :: popped, d.role = .plain) (h : Shape (c :: popped ++ calls)) :
    w.Does (c :: popped ++ calls) (w.unwind calls).1 (w.unwind calls).2 := by
  have hne : c :: popped ≠ [] := List.cons_ne_nil c popped
  -- `popped` grows by the calls that are given up on the way down
  induction calls generalizing popped with
  | nil => exact .plain (.refl w) hne hpopped (List.forall_mem_nil _)
  | cons d calls ih =>
      have hfits := h.head_of_plain hne hpopped
      -- a plain call that takes no note joins those that are given up
      have hnext : d.role = .plain → w.unwind (d :: calls) = w.unwind calls →
          sheltered (d :: calls) = sheltered calls →
          w.Does (c :: popped ++ d :: calls) (w.unwind (d :: calls)).1
            (w.unwind (d :: calls)).2 := by
        intro hd hunwind hnote
        have hall : ∀ d' ∈ c :: (popped ++ [d]), d'.role = .plain := by
          simpa [or_imp, forall_and, hd] using hpopped
        have hstep := ih (popped ++ [d]) (by simpa [hnote] using hsheltered) hall
          (by simpa using h) (List.cons_ne_nil _ _)
        rw [hunwind]
        simpa using hstep
      cases d with
      | flush => exact absurd hfits (show ¬ Role.plain.Fits (some .flush) by decide)
      | drain => exact absurd hfits (show ¬ Role.plain.Fits (some .drain) by decide)
      | handlers e rest o =>
          have hall : ∀ d ∈ c :: popped ++ [.handlers e rest o], d.role = .plain := by
            simpa [or_imp, forall_and, Call.role] using hpopped
          have hmore : ∀ d ∈ [Call.handlers e rest { o with failed := o.failed + 1 }],
              d.role = .plain := by simp [Call.role]
          have hexchange := @Does.plain w _ (c :: popped ++ [.handlers e rest o]) _ calls
            (w.report_same (Report.handlerBroke e.type)) (by simp) hall hmore
          simpa [unwind] using hexchange
      | observers next rest =>
          exact @Does.plain w _ (c :: popped) [] _ (w.report_same _) hne hpopped
            (List.forall_mem_nil _)
      | session epoch =>
          -- a session lies at the bottom, so nothing is left below
          obtain rfl := (h.below : Shape (.session epoch :: calls)).eq_nil_of_session rfl
          exact .broken hbreak (by simpa [sheltered] using hsheltered) hpopped
      | _ => exact hnext rfl rfl rfl

theorem SameManager.performs {a : Action} {rest : List Action} (h : w.SameManager w')
    (hmore : ∀ d ∈ more, d.role = .plain) :
    w.Does (.actions (a :: rest) :: calls) w' (more ++ .yielded a :: .actions rest :: calls) := by
  have hall : ∀ d ∈ more ++ [.yielded a, .actions rest], d.role = .plain := by
    simpa [or_imp, forall_and, Call.role] using hmore
  have hdoes : w.Does (.actions (a :: rest) :: calls) w' _ := h.does rfl hall
  simpa using hdoes

theorem connect_does (w : World) (rest : List Action) (calls : List Call) :
    w.Does (.actions (.connect :: rest) :: calls) w.connect.1
      (w.connect.2 ++ .yielded .connect :: .actions rest :: calls) := by
  unfold connect
  split
  next => exact (w.report_same _).performs (List.forall_mem_nil _)
  next l hl =>
    have hwake := w.wakeOwner_same
    refine .connect hl ⟨rfl, ?_, hwake.opens, hwake.scenario, hwake.now⟩
    simp only [spawn, hwake.tasks, hwake.scenario]

theorem disconnect_does (w : World) (rest : List Action) (calls : List Call) :
    w.Does (.actions (.disconnect :: rest) :: calls) w.disconnect.1
      (w.disconnect.2 ++ .yielded .disconnect :: .actions rest :: calls) := by
  have hwake := w.wakeOwner_same
  exact .disconnect ⟨rfl, hwake.tasks, hwake.opens, hwake.scenario, hwake.now⟩

theorem observe_does (w : World) (o : ObserverId) (rest : List Action) (calls : List Call) :
    w.Does (.actions (.observe o :: rest) :: calls) (w.observe o)
      (.yielded (.observe o) :: .actions rest :: calls) := by
  unfold observe
  split
  next l hl => exact .observe hl
  next => exact (w.report_same _).performs (List.forall_mem_nil _)

theorem perform_does (w : World) (a : Action) (rest : List Action) (calls : List Call) :
    w.Does (.actions (a :: rest) :: calls) (w.perform a).1
      ((w.perform a).2.2 ++ .yielded a :: .actions rest :: calls) := by
  have hrefl := SameManager.refl w
  have hnil : ∀ d ∈ ([] : List Call), d.role = .plain := List.forall_mem_nil _
  cases a with
  | connect => exact w.connect_does rest calls
  | disconnect => exact w.disconnect_does rest calls
  | observe o => exact w.observe_does o rest calls
  | unobserve o => exact .unobserve
  | subscribe name h =>
      simp only [perform]
      split
      · exact hrefl.performs hnil
      · exact (w.changeRegistry_same _ _).performs hnil
  | unsubscribe name h =>
      simp only [perform]
      split
      · exact hrefl.performs hnil
      · exact (w.changeRegistry_same _ _).performs hnil
  | count name =>
      simp only [perform]
      split <;> exact hrefl.performs hnil
  | dispatch raw =>
      simp only [perform]
      split
      · exact hrefl.performs hnil
      · exact hrefl.performs (by simp [Call.role])
  | notify o state =>
      cases state with
      | ok s => exact hrefl.performs (by simp [perform, Call.role])
      | error e => exact hrefl.performs hnil
  | send item link => exact (w.receive_same item _).performs hnil

theorem callHandler_same (w : World) (event : Event) (h : HandlerId) :
    w.SameManager (w.callHandler event h).1 ∧
      ∀ c ∈ (w.callHandler event h).2, c.role = .plain := by
  cases h with
  | eventLogger => exact ⟨w.report_same _, List.forall_mem_nil _⟩
  | scripted name => exact ⟨⟨rfl, rfl, rfl, rfl, rfl⟩, by simp [callHandler, Call.role]⟩

theorem callObserver_same (w : World) (next : ConnectionState) (o : ObserverId) :
    w.SameManager (w.callObserver next o).1 ∧
      ∀ c ∈ (w.callObserver next o).2, c.role = .plain := by
  cases o with
  | notifier =>
      have hset : w.SameManager { w with notifier := (w.notifier.notify next).2 } :=
        ⟨rfl, rfl, rfl, rfl, rfl⟩
      simp only [callObserver]
      split
      · exact ⟨(hset.trans (note_same _ _)).trans (report_same _ _), List.forall_mem_nil _⟩
      · exact ⟨⟨rfl, rfl, rfl, rfl, rfl⟩, List.forall_mem_nil _⟩
  | scripted name =>
      simp only [callObserver]
      split
      · exact ⟨⟨rfl, rfl, rfl, rfl, rfl⟩, by simp [Call.role]⟩
      · exact ⟨⟨rfl, rfl, rfl, rfl, rfl⟩, List.forall_mem_nil _⟩

theorem setAlarms_same (w : World) (task : Task) (wanted : List (AlarmKind × Nat)) :
    ∃ alarms, (w.setTask { task with alarms }).SameManager (w.setAlarms task wanted) :=
  -- the alarms are whatever `setAlarms` computes
  ⟨_, ⟨rfl, rfl, rfl, rfl, rfl⟩⟩

theorem runSession_does (w : World) (epoch : UInt64) (value : Value) (calls : List Call) :
    w.Does (.session epoch :: calls) (w.runSession epoch value calls).1
      (w.runSession epoch value calls).2 := by
  unfold runSession
  split
  next h => exact .absent h
  next task htask =>
    split
    next w₁ s b more hstep =>
      have hsame := SameManager.refl
        (w₁.setTask ⟨s, b, task.alarms.filter fun a => b.keeps a.kind⟩)
      exact .session htask hstep rfl hsame
    next w₁ s b alarms hstep =>
      obtain ⟨set, hset⟩ := w₁.setAlarms_same ⟨s, b, task.alarms⟩ alarms
      exact .session htask hstep rfl hset
    next w₁ s hstep => exact .finish htask hstep

theorem failHandler_does (w : World) (event : Event) (message : String) (calls : List Call) :
    w.Does (.handled event (.failed message) :: calls) (w.failHandler event message calls).1
      (w.failHandler event message calls).2 := by
  unfold failHandler
  split
  next e rest o calls =>
    have hpopped : ∀ c ∈ [Call.handled event (.failed message), .handlers e rest o],
        c.role = .plain := by simp [Call.role]
    have hmore : ∀ c ∈ [Call.handlers e rest { o with failed := o.failed + 1 }],
        c.role = .plain := by simp [Call.role]
    exact .plain (w.report_same _) (List.cons_ne_nil _ _) hpopped hmore
  next => exact (SameManager.refl w).pops rfl

theorem flush_does (w : World) (value : Value) (calls : List Call) :
    w.Does (.flush :: calls) (w.step ⟨.flush :: calls, value⟩).1
      (w.step ⟨.flush :: calls, value⟩).2.calls := by
  cases hdraining : w.lifecycle.draining with
  | true =>
      simp only [step, Lifecycle.enterDrain?, hdraining, if_true]
      exact .busy hdraining
  | false =>
      simp only [step, Lifecycle.enterDrain?, hdraining, Bool.false_eq_true, if_false]
      exact .enter hdraining

theorem drain_does (w : World) (value : Value) (calls : List Call) :
    w.Does (.drain :: calls) (w.step ⟨.drain :: calls, value⟩).1
      (w.step ⟨.drain :: calls, value⟩).2.calls := by
  cases hpending : w.lifecycle.pending with
  | nil =>
      have htake : w.lifecycle.takeTransition =
          (none, { w.lifecycle with draining := false }) := by
        simp [Lifecycle.takeTransition, hpending]
      simp only [step, htake]
      exact .depart hpending
  | cons t rest =>
      simp only [step, Lifecycle.takeTransition, hpending]
      exact .take hpending (report_same _ _)

theorem step_does (w : World) (t : Thread) (hshape : Shape t.calls) :
    w.Does t.calls (w.step t).1 (w.step t).2.calls := by
  obtain ⟨calls, value⟩ := t
  have hrefl := SameManager.refl w
  have hunwind : ∀ {c : Call} {calls : List Call}, c.mayBreak = true → c.role = .plain →
      Shape (c :: calls) → w.Does (c :: calls) (w.unwind calls).1 (w.unwind calls).2 := by
    intro c calls hbreak hc hshape
    exact w.unwind_does c [] calls hbreak rfl (by simpa using hc) hshape
  cases calls with
  | nil => exact .nothing
  | cons c calls =>
    cases c with
    | actions list =>
        cases list with
        | nil => exact hrefl.pops rfl
        | cons a rest => exact w.perform_does a rest calls
    | yielded a =>
        simp only [step]
        split
        · exact hrefl.pops rfl
        · exact (w.note_same _).pops rfl
    | deliver e =>
        simp only [step]
        split
        · exact (w.report_same _).pops rfl
        · exact hrefl.becomes rfl rfl
    | handlers e list o =>
        cases list with
        | nil => exact (w.report_same _).pops rfl
        | cons h rest =>
            obtain ⟨hsame, hmore⟩ := w.callHandler_same e h
            have hall : ∀ c ∈ (w.callHandler e h).2 ++
                [.handlers e rest { o with invoked := o.invoked + 1 }], c.role = .plain := by
              simpa [or_imp, forall_and, Call.role] using hmore
            have hdoes : w.Does (.handlers e (h :: rest) o :: calls) _ _ := hsame.does rfl hall
            simpa [step] using hdoes
    | handled e ending =>
        cases ending with
        | ok => exact hrefl.pops rfl
        | failed message => exact w.failHandler_does e message calls
        | broken => exact hunwind rfl rfl hshape
    | flush => exact w.flush_does value calls
    | drain => exact w.drain_does value calls
    | observers next list =>
        cases list with
        | nil => exact .ceased
        | cons o rest => exact .tell
    | observer o next =>
        obtain ⟨hsame, hmore⟩ := w.callObserver_same next o
        exact hsame.does rfl hmore
    | observed breaks =>
        cases breaks with
        | false => exact hrefl.pops rfl
        | true => exact hunwind rfl rfl hshape
    | session epoch => exact w.runSession_does epoch value calls

end World

end EventFeed.Simulation
