import EventFeed.Proofs.Manager.Edges
import EventFeed.Proofs.Watch.Hearing
import EventFeed.Simulation.Watcher

/-! # Notifications follow the changes

The watching program registers its notifier when it is started for the first time. From then on the
notifier is told every change, so that the state that it remembers is the one before the change of
which it learns, and it gives out what there is to be said of the changes that really happen.
-/

namespace EventFeed

/-! ## Linked changes -/

/-- Each change starts from the state to which the one before has led. -/
def Linked : ConnectionState → List Transition → Prop
  | _, [] => True
  | s, t :: rest => t.previous = s ∧ Linked t.next rest

section Linked

variable {s z : ConnectionState} {changes more : List Transition} {t : Transition}

theorem linked_of_states
    (h : s :: changes.map Transition.next = changes.map Transition.previous ++ [z]) :
    Linked s changes := by
  induction changes generalizing s with
  | nil => exact trivial
  | cons t changes ih =>
      obtain ⟨hs, hrest⟩ := List.cons.inj h
      exact ⟨hs.symm, ih hrest⟩

theorem Linked.left (h : Linked s (changes ++ more)) : Linked s changes := by
  induction changes generalizing s with
  | nil => exact trivial
  | cons t changes ih => exact ⟨h.1, ih h.2⟩

/-- A change starts from the first state if it is the first, and else from where another led. -/
theorem Linked.previous_eq (h : Linked s (changes ++ t :: more)) :
    changes = [] ∧ t.previous = s ∨
      ∃ earlier t', changes = earlier ++ [t'] ∧ t.previous = t'.next := by
  induction changes generalizing s with
  | nil => exact .inl ⟨rfl, h.1⟩
  | cons t' changes ih =>
      rcases ih h.2 with ⟨rfl, hprevious⟩ | ⟨earlier, t'', rfl, hprevious⟩
      · exact .inr ⟨[], t', rfl, hprevious⟩
      · exact .inr ⟨t' :: earlier, t'', rfl, hprevious⟩

end Linked

/-- The notification for a change that really happens. -/
def Transition.notification? (t : Transition) : Option Notification :=
  Notification.forChange t.previous t.next

namespace Notification

theorem forChange_congr {p p' : ConnectionState} (h : p = .connecting ↔ p' = .connecting)
    (next : ConnectionState) : forChange p next = forChange p' next := by
  cases next <;> simp [forChange, h]

/-- The only notification that stays is that of a failure. -/
theorem next_of_persistent {t : Transition} {n : Notification} (h : t.notification? = some n)
    (hpersistent : n.persistent = true) : t.next = .failed := by
  obtain ⟨previous, next⟩ := t
  cases next with
  | failed => rfl
  | disconnected =>
      simp only [Transition.notification?, forChange] at h
      split at h
      · cases h
      · rw [← Option.some.inj h] at hpersistent
        cases hpersistent
  | idle | connecting => cases h
  | connected | reconnecting =>
      rw [← Option.some.inj h] at hpersistent
      cases hpersistent

/-- Among changes that follow the edges, a failure comes right after a change to reconnecting, of
which there is always something to be said. -/
theorem getLast?_of_persistent {s : ConnectionState} {changes : List Transition}
    {shown rest : List Notification} {n : Notification} (hlinked : Linked s changes)
    (hedges : ∀ t ∈ changes, t.next ∈ t.previous.successors) (hs : s ≠ .reconnecting)
    (h : changes.filterMap Transition.notification? = shown ++ n :: rest)
    (hpersistent : n.persistent = true) : shown.getLast? = some reconnecting := by
  obtain ⟨first, others, rfl, rfl, hothers⟩ := List.filterMap_eq_append_iff.mp h
  obtain ⟨quiet, t, later, rfl, hquiet, ht, _⟩ := List.filterMap_eq_cons_iff.mp hothers
  have hfailed := next_of_persistent ht hpersistent
  have hprevious : t.previous = .reconnecting := by
    have hedge := hedges t (by simp)
    rw [hfailed] at hedge
    revert hedge
    cases t.previous <;> simp [ConnectionState.successors]
  rw [← List.append_assoc] at hlinked
  rcases hlinked.previous_eq with ⟨_, hfirst⟩ | ⟨earlier, t', hbefore, hnext⟩
  · exact absurd (hfirst.symm.trans hprevious) hs
  · have ht' : t'.notification? = some reconnecting := by
      rw [Transition.notification?, ← hnext, hprevious]
      rfl
    -- the change before is no quiet one, so it is the last of the others
    rcases List.eq_nil_or_concat quiet with rfl | ⟨quiet, t'', rfl⟩
    · rw [List.append_nil] at hbefore
      rw [hbefore, List.filterMap_append]
      simp [ht']
    · rw [List.concat_eq_append, ← List.append_assoc] at hbefore
      obtain ⟨_, hlast⟩ := List.append_inj' hbefore rfl
      obtain rfl := (List.cons.inj hlast).1
      rw [hquiet t'' (by simp)] at ht'
      cases ht'

end Notification

namespace Simulation

/-- The notifier is removed or called past the manager. -/
def Action.meddles : Action → Bool
  | .unobserve .notifier | .notify .notifier _ => true
  | _ => false

/-- A notifier that is told where linked changes lead gives out what there is to be said of them. -/
theorem Notices.shown_of_linked {n : Notices} {s : ConnectionState} {changes : List Transition}
    (hlinked : Linked s changes) (hs : n.previous = .connecting ↔ s = .connecting) :
    ((changes.map Transition.next).foldl tell n).shown =
      n.shown ++ changes.filterMap Transition.notification? := by
  induction changes generalizing n s with
  | nil => simp
  | cons t changes ih =>
      obtain ⟨rfl, hrest⟩ := hlinked
      have htell := @ih (n.tell t.next) t.next hrest Iff.rfl
      have hforChange := Notification.forChange_congr hs t.next
      rw [List.map_cons, List.foldl_cons, htell, tell, hforChange, List.append_assoc,
        List.filterMap_cons]
      refine congrArg (n.shown ++ ·) ?_
      change (Transition.notification? t).toList ++ _ = _
      cases t.notification? <;> rfl

namespace World

variable {w w' : World} {calls calls' : List Call}

/-- Nobody has asked for a connection. -/
structure Unconnected (w : World) : Prop where
  tasks : w.tasks = []
  state : w.lifecycle.state = .idle ∨ w.lifecycle.state = .disconnected

theorem Does.unconnected (h : w.Does calls w' calls')
    (hnone : Action.connect ∉ Call.performed calls.head?) (hw : w.Unconnected) :
    w'.Unconnected := by
  have hsame : w'.tasks = w.tasks → w'.lifecycle.state = w.lifecycle.state → w'.Unconnected :=
    fun htasks hstate => ⟨htasks.trans hw.tasks, hstate ▸ hw.state⟩
  have habsent : ∀ epoch, w.task? epoch = none := fun epoch => by simp [task?, hw.tasks]
  cases h with
  | plain hs => exact hsame hs.tasks (by rw [hs.lifecycle])
  | connect => exact absurd (List.mem_singleton_self _) hnone
  | disconnect hs =>
      refine ⟨hs.tasks.trans hw.tasks, .inr ?_⟩
      simp [hs.lifecycle, Lifecycle.disconnect]
  | observe hl =>
      obtain ⟨_, rfl⟩ := Lifecycle.addObserver?_eq_some.mp hl
      exact hsame rfl rfl
  | take _ hs => exact hsame hs.tasks (by rw [hs.lifecycle])
  | session htask => rw [habsent] at htask; cases htask
  | finish htask => rw [habsent] at htask; cases htask
  | broken => exact ⟨by simp [removeTask, hw.tasks], hw.state⟩
  | _ => exact hsame rfl rfl

end World

/-! ## Before the first start -/

namespace Pool

variable {p : Pool} {m : Move} {moves : List Move} {o : ObserverId}

theorem move_unconnected (hshape : p.Shaped) (hnone : Action.connect ∉ p.performed m)
    (h : p.world.Unconnected) : (p.move m).world.Unconnected := by
  rcases (p.move_moves m hshape).does with ⟨time, _, hw⟩ | ⟨calls, calls', hcall, _, hdoes⟩
  · have hring := p.world.ring_same time
    refine ⟨?_, ?_⟩
    · rw [hw, hring.tasks]
      simp [h.tasks]
    · rw [hw, hring.lifecycle]
      exact h.state
  · rw [performed, hcall] at hnone
    exact hdoes.unconnected hnone h

/-- An observer that is not registered, and is owed nothing, is told nothing. -/
theorem Turns.untold (h : p.Turns m (p.move m)) (ho : o ∉ p.world.lifecycle.observers)
    (howed : owed o (dutiesOf p.threads) = []) :
    told o p m = [] ∧ owed o (dutiesOf (p.move m).threads) = [] := by
  obtain ⟨hcall, _, _, hbefore, hafter, hserves⟩ := h
  rw [told, hcall, hafter]
  simp only [hbefore, owed_append, List.append_eq_nil_iff] at howed ⊢
  obtain ⟨⟨hb, hthread⟩, ha⟩ := howed
  generalize (p.move m).world = w' at hserves
  cases hserves with
  | apart _ _ _ hhead hduties =>
      exact ⟨told_of_not_duty hhead, ⟨hb, by rw [hduties]; exact hthread⟩, ha⟩
  | set _ _ hhead hduties =>
      refine ⟨told_of_not_duty hhead, ⟨hb, ?_⟩, ha⟩
      rw [hduties]
      simpa [Call.owes] using hthread
  | take =>
      have hcount : p.world.lifecycle.observers.count o = 0 := List.count_eq_zero.mpr ho
      refine ⟨rfl, ⟨hb, ?_⟩, ha⟩
      simpa [Call.owes, hcount] using hthread
  | @tell next o' rest calls =>
      -- an observer that is owed nothing is not the next one
      simp only [duties_observers, owed_cons, Call.owes, List.append_eq_nil_iff,
        List.replicate_eq_nil_iff, List.count_eq_zero, List.mem_cons, not_or] at hthread
      obtain ⟨⟨hne, hrest⟩, hbelow⟩ := hthread
      refine ⟨if_neg (Ne.symm hne), ⟨hb, ?_⟩, ha⟩
      simp [Call.owes, List.count_eq_zero.mpr hrest, hbelow]
  | _ => exact ⟨rfl, ⟨hb, by simpa [Call.owes] using hthread⟩, ha⟩

/-- As long as nobody registers an observer, it is told nothing. -/
theorem run_untold (hshape : p.Shaped) (hnone : Action.observe o ∉ p.trace performed moves)
    (ho : o ∉ p.world.lifecycle.observers) (howed : owed o (dutiesOf p.threads) = []) :
    p.trace (told o) moves = [] ∧ o ∉ (p.run moves).world.lifecycle.observers ∧
      owed o (dutiesOf (p.run moves).threads) = [] := by
  induction moves using List.reverseRecOn with
  | nil => exact ⟨rfl, ho, howed⟩
  | append_singleton moves m ih =>
      rw [trace_concat, List.mem_append, not_or] at hnone
      obtain ⟨htold, hrun, howed'⟩ := ih hnone.1
      have hshaped := run_shaped moves hshape
      have hturns := ((p.run moves).move_moves m hshaped).turns hshaped
      obtain ⟨hmove, hnext⟩ := hturns.untold hrun howed'
      rw [trace_concat, htold, hmove, run_concat]
      exact ⟨rfl, move_unregistered hshaped hnone.2 hrun, hnext⟩

theorem run_unconnected (hshape : p.Shaped) (hnone : Action.connect ∉ p.trace performed moves)
    (h : p.world.Unconnected) : (p.run moves).world.Unconnected := by
  induction moves using List.reverseRecOn with
  | nil => exact h
  | append_singleton moves m ih =>
      rw [trace_concat, List.mem_append, not_or] at hnone
      rw [run_concat]
      exact move_unconnected (run_shaped moves hshape) hnone.2 (ih hnone.1)

/-- The notifier has nothing to do with what happens yet, and nobody has connected. -/
structure Unstarted (p : Pool) : Prop where
  tidy : ∀ t ∈ p.threads, Tidy t.calls
  unheard : announcedBy p.threads = []
  unowed : owed .notifier (dutiesOf p.threads) = []
  unregistered : .notifier ∉ p.world.lifecycle.observers
  unconnected : p.world.Unconnected
  notices : p.world.notices = ⟨.idle, []⟩

theorem run_unstarted {scenario : Scenario} {opens : List OpenScript}
    (hconnect : Action.connect ∉ (start scenario opens).trace performed moves)
    (hobserve : Action.observe .notifier ∉ (start scenario opens).trace performed moves)
    (hdirect : ∀ state,
      Action.notify .notifier (.ok state) ∉ (start scenario opens).trace performed moves) :
    ((start scenario opens).run moves).Unstarted := by
  have hshape := start_shaped scenario opens
  obtain ⟨htold, hunregistered, howed⟩ := run_untold hshape hobserve List.not_mem_nil rfl
  obtain ⟨htidy, hheard⟩ :=
    run_heard hshape (start_attended scenario opens) (List.forall_mem_nil _) hdirect
  obtain ⟨hnothing, hunheard⟩ := List.append_eq_nil_iff.mp (hheard.trans (by rw [htold]; rfl))
  refine ⟨htidy, hunheard, howed, hunregistered, run_unconnected hshape hconnect ?_, ?_⟩
  · exact ⟨rfl, .inl rfl⟩
  · rw [run_notices, hnothing]
    rfl

/-! ## Starts -/

/-- The program is started: what is to be registered is registered, of which the notifier is the
first, and the rest may take its time. -/
def starting (p : Pool) : List Move :=
  [.begin (Watcher.registrations ++ [.connect]), .step p.threads.length]

/-- A start registers the notifier before anything else happens. -/
theorem run_starting (ho : ObserverId.notifier ∉ p.world.lifecycle.observers) :
    p.trace change p.starting = [] ∧ p.trace heard p.starting = [] ∧
      (p.run p.starting).world = { p.world with
        lifecycle := { p.world.lifecycle with
          observers := p.world.lifecycle.observers ++ [.notifier] } } ∧
      ∃ rest, (p.run p.starting).threads =
        p.threads ++ [⟨[.yielded (.observe .notifier), .actions rest], .none⟩] := by
  have hobserve : p.world.lifecycle.addObserver? .notifier =
      some { p.world.lifecycle with observers := p.world.lifecycle.observers ++ [.notifier] } := by
    simp [Lifecycle.addObserver?, ho]
  have hregistrations : Watcher.registrations ++ [.connect] =
      .observe .notifier :: (watchedTypes.map fun t => .subscribe t.name .eventLogger) ++
        [.connect] := rfl
  simp [starting, run, trace, move, heard, change, call?, Call.heard, hregistrations, World.step,
    World.perform, World.observe, hobserve]

/-- Whatever happens after the first start, the notifier hears of the changes since, in their order,
and has heard of all of them when no thread is at the queue. -/
theorem run_started {after : List Move} (hshape : p.Shaped) (hattended : p.Attended)
    (hlisted : p.Listed) (hunstarted : p.Unstarted) (hpending : p.world.lifecycle.pending = [])
    (hmeddles : ∀ a ∈ p.trace performed (p.starting ++ after), a.meddles = false) :
    let r := p.run (p.starting ++ after)
    (∃ rest, p.trace heard (p.starting ++ after) ++ rest =
      (p.trace change (p.starting ++ after)).map Transition.next ∧ (r.Unattended → rest = [])) ∧
      r.world.lifecycle.observers.count .notifier = 1 := by
  intro r
  obtain ⟨hchange, hheard, hworld, acts, hthreads⟩ := run_starting hunstarted.unregistered
  have hshaped : (p.run p.starting).Shaped := run_shaped _ hshape
  have hattended' : (p.run p.starting).Attended := run_attended hshape hattended
  have hlisted' : (p.run p.starting).Listed := run_listed hshape hlisted
  have hduties : dutiesOf (p.run p.starting).threads = dutiesOf p.threads := by
    rw [hthreads]
    simp [dutiesOf, duties, Call.isDuty, Call.role]
  have htidy' : ∀ t ∈ (p.run p.starting).threads, Tidy t.calls := by
    rw [hthreads]
    refine List.forall_mem_append.mpr ⟨hunstarted.tidy, ?_⟩
    exact List.forall_mem_singleton.mpr (.of_silent rfl)
  have hannounced : announcedBy (p.run p.starting).threads = [] := by
    rw [hthreads]
    simpa [announcedBy, announced, Call.announces] using hunstarted.unheard
  have hregistered : .notifier ∈ (p.run p.starting).world.lifecycle.observers := by
    rw [hworld]
    exact List.mem_append_right _ (List.mem_singleton_self _)
  have hkept : ∀ a, a.meddles = true → a ∉ (p.run p.starting).trace performed after := by
    intro a ha hmem
    have hnot := hmeddles a (by rw [trace_append]; exact List.mem_append_right _ hmem)
    rw [ha] at hnot
    cases hnot
  have hr : (p.run p.starting).run after = r := run_append.symm
  -- what has been told has been heard, except for what is just being told
  obtain ⟨htidied, hhears⟩ := run_heard hshaped hattended' htidy' fun state => hkept _ rfl
  have haccount := run_account hshaped hattended' hlisted' hregistered (hkept _ rfl)
  rw [hannounced, List.nil_append] at hhears
  rw [hduties, hunstarted.unowed, hworld, hpending, ← hhears, hr] at haccount
  simp only [List.map_nil, List.append_nil, List.nil_append, List.append_assoc] at haccount
  rw [hr] at htidied
  refine ⟨⟨announcedBy r.threads ++ (owed .notifier (dutiesOf r.threads) ++
    r.world.lifecycle.pending.map Transition.next), ?_, fun hnobody => ?_⟩, ?_⟩
  · rw [trace_append, trace_append, hchange, hheard]
    exact haccount
  · have hrest : r.Attended := run_attended hshape hattended
    have hle := tellings_le_drains (run_shaped (p.starting ++ after) hshape)
    rw [hnobody.inRole_eq_zero (.inl rfl), Nat.le_zero] at hle
    rw [announcedBy_eq_nil htidied hle, owed_eq_nil hle, (hrest.rest hnobody).1]
    rfl
  · have hlast : .notifier ∈ r.world.lifecycle.observers := by
      rw [← hr]
      exact run_registered hshaped hregistered (hkept _ rfl)
    have hnodup : r.Listed := run_listed hshape hlisted
    rw [hnodup.count, if_pos hlast]

/-- The program is started when no change waits to be told, after anything else but a connection.
The notifier is the program's own: nobody but a start registers it, and nobody removes it or calls
it past the manager. Whatever happens then, further starts and stops included, and in whatever
order:

* what the notifier has given out is, in order, what there is to be said of the changes of state
  since the first start, each from the state before it, and it has given out all of that when no
  thread is at the queue;
* the notifier stays registered once, however often the program is started;
* there is nothing to be said of a disconnection exactly when it ends a first attempt to connect;
* a notification that stays comes right after the warning of a reconnection, as long as epochs are
  left. -/
theorem notifications_follow_changes (scenario : Scenario) (opens : List OpenScript)
    (before after : List Move)
    (hconnect : Action.connect ∉ (start scenario opens).trace performed before)
    (hobserve : Action.observe .notifier ∉ (start scenario opens).trace performed before)
    (hpending : ((start scenario opens).run before).world.lifecycle.pending = [])
    (hmeddles : ∀ a ∈ (start scenario opens).trace performed
      (before ++ (((start scenario opens).run before).starting ++ after)), a.meddles = false) :
    let p := (start scenario opens).run before
    let r := p.run (p.starting ++ after)
    let changes := p.trace change (p.starting ++ after)
    let due := changes.filterMap Transition.notification?
    r.world.notices.shown <+: due ∧
      (r.Unattended → r.world.notices.shown = due) ∧
      p.world.lifecycle.state :: changes.map Transition.next =
        changes.map Transition.previous ++ [r.world.lifecycle.state] ∧
      r.world.lifecycle.observers.count .notifier = 1 ∧
      (∀ t ∈ changes, t.next = .disconnected →
        (t.notification? = none ↔ t.previous = .connecting)) ∧
      ((start scenario opens).requests (before ++ (p.starting ++ after)) < 2 ^ 64 →
        ∀ shown n rest, r.world.notices.shown = shown ++ n :: rest → n.persistent = true →
          shown.getLast? = some .reconnecting) := by
  intro p r changes due
  rw [trace_append, List.forall_mem_append] at hmeddles
  have hshape : p.Shaped := run_shaped before (start_shaped scenario opens)
  have hattended : p.Attended :=
    run_attended (start_shaped scenario opens) (start_attended scenario opens)
  have hlisted : p.Listed := run_listed (start_shaped scenario opens) List.nodup_nil
  have hdirect : ∀ state,
      Action.notify .notifier (.ok state) ∉ (start scenario opens).trace performed before := by
    intro state hmem
    have hnot := hmeddles.1 _ hmem
    cases hnot
  have hunstarted : p.Unstarted := run_unstarted hconnect hobserve hdirect
  obtain ⟨⟨rest, hheard, hrest⟩, hcount⟩ :=
    run_started hshape hattended hlisted hunstarted hpending hmeddles.2
  have hstates := p.states_linked (p.starting ++ after)
  have hlinked : Linked p.world.lifecycle.state changes := linked_of_states hstates
  -- the changes of which the notifier has heard come before the others
  obtain ⟨told, untold, hsplit, htold, huntold⟩ := List.map_eq_append_iff.mp hheard.symm
  have hchanges : changes = told ++ untold := hsplit
  have hshown : r.world.notices.shown = told.filterMap Transition.notification? := by
    have hstate : (ConnectionState.idle = .connecting) ↔
        p.world.lifecycle.state = .connecting := by
      rcases hunstarted.unconnected.state with hs | hs <;> simp [hs]
    rw [hchanges] at hlinked
    rw [run_notices, hunstarted.notices, ← htold]
    exact Notices.shown_of_linked hlinked.left hstate
  have hdue : due = told.filterMap Transition.notification? ++
      untold.filterMap Transition.notification? := by
    rw [← List.filterMap_append, ← hchanges]
  refine ⟨⟨_, by rw [hshown, ← hdue]⟩, fun hnobody => ?_, hstates, hcount, ?_, ?_⟩
  · rw [hrest hnobody, List.map_eq_nil_iff] at huntold
    rw [hshown, hdue, huntold, List.filterMap_nil, List.append_nil]
  · rintro ⟨previous, next⟩ _ rfl
    cases previous <;> simp [Transition.notification?, Notification.forChange]
  · intro hrequests shown n later hsplit hpersistent
    have hedges : ∀ t ∈ changes, t.next ∈ t.previous.successors := by
      intro t ht
      refine changes_follow_edges (start_shaped scenario opens) (.start scenario opens)
        (epochs_fit hrequests) t ?_
      rw [trace_append]
      exact List.mem_append_right _ ht
    have hs : p.world.lifecycle.state ≠ .reconnecting := by
      rcases hunstarted.unconnected.state with hs | hs <;> simp [hs]
    have hwhole : changes.filterMap Transition.notification? =
        shown ++ n :: (later ++ untold.filterMap Transition.notification?) := by
      rw [← List.cons_append, ← List.append_assoc, ← hsplit, hshown, ← hdue]
    exact Notification.getLast?_of_persistent hlinked hedges hs hwhole hpersistent

/-- Every attempt is refused, and one retry is allowed. -/
def forbidding : Scenario where
  manager := { config := { baseReconnectDelayMs := 10, maxReconnectAttempts := 1 } }
  fallback := { answer := .refuse "no" }

/-- Somebody disconnects before the program is started. -/
def prelude : List Move := .begin [.disconnect] :: List.replicate 7 (.step 0)

/-- Once started, the program is started again when its session has given up, and then stopped. -/
def persistence : List Move :=
  List.replicate 24 (.step 1) ++ .poll 2 :: List.replicate 15 (.step 2) ++
    .tick 10 :: .poll 2 :: List.replicate 28 (.step 3) ++
    .begin (Watcher.registrations ++ [.connect]) :: List.replicate 25 (.step 4) ++
    .begin [.disconnect] :: List.replicate 9 (.step 5)

theorem notifications_follow_changes_forbidding :
    (((start forbidding []).run prelude).trace change
        (((start forbidding []).run prelude).starting ++ persistence)).map Transition.next =
      [.connecting, .reconnecting, .connecting, .reconnecting, .failed, .connecting,
        .disconnected] ∧
      (((start forbidding []).run prelude).run
        (((start forbidding []).run prelude).starting ++ persistence)).world.notices.shown =
          [.reconnecting, .reconnecting, .failed] := by
  have hperformed : (start forbidding []).trace performed prelude = [.disconnect] := rfl
  have hpending : ((start forbidding []).run prelude).world.lifecycle.pending = [] := by
    decide +kernel
  have hmeddles : ∀ a ∈ (start forbidding []).trace performed
      (prelude ++ (((start forbidding []).run prelude).starting ++ persistence)),
      a.meddles = false := by decide +kernel
  have hthreads : ∀ t ∈ (((start forbidding []).run prelude).run
      (((start forbidding []).run prelude).starting ++ persistence)).threads,
      t.calls.isEmpty = true := by decide +kernel
  have hdue : (((start forbidding []).run prelude).trace change
      (((start forbidding []).run prelude).starting ++ persistence)).filterMap
        Transition.notification? = [.reconnecting, .reconnecting, .failed] := by decide +kernel
  obtain ⟨_, hall, _⟩ := notifications_follow_changes forbidding [] prelude persistence
    (by rw [hperformed]; simp) (by rw [hperformed]; simp) hpending hmeddles
  refine ⟨by decide +kernel, (hall fun t ht c hc => ?_).trans hdue⟩
  rw [List.isEmpty_iff.mp (hthreads t ht)] at hc
  cases hc

end Pool

end Simulation

end EventFeed
