import EventFeed.Proofs.Dispatch.Subscriptions
import EventFeed.Proofs.Event.Names
import EventFeed.Proofs.Interleaving.Frames
import EventFeed.Proofs.Manager.Delivery
import EventFeed.Simulation.Watcher
import Mathlib.Data.List.Nodup

/-! # What actions leave registered

Who is subscribed to what, and who observes the connection, can be read off the actions that have
been performed, whoever has performed them. No delivery, no session and no callback that fails
changes either list.
-/

namespace EventFeed

/-- Events of all types of the registry are logged, and no others. -/
theorem mem_watchedTypes {t : EventType} : t ∈ watchedTypes ↔ t.isKnown = true := by
  cases t with
  | registry e => simp [watchedTypes, EventType.known, EventType.isKnown, RegistryEvent.mem_all]
  | custom t => simp [watchedTypes, EventType.known, EventType.isKnown]

namespace Registry

variable {Handler : Type} [DecidableEq Handler] {history : List (Edit Handler)} {t : EventType}
  {h : Handler}

/-- A handler that nobody unsubscribes is subscribed if anybody has subscribed it. -/
theorem subscribed_iff_mem (hkept : .unsubscribe t h ∉ history) :
    Subscribed history t h ↔ .subscribe t h ∈ history := by
  induction history using List.reverseRecOn with
  | nil => simp [Subscribed, latest?]
  | append_singleton history e ih =>
      rw [List.mem_append, List.mem_singleton, not_or] at hkept
      rw [subscribed_concat, List.mem_append, List.mem_singleton]
      split
      next hconcerns =>
        have he := (Edit.concerns_iff.mp hconcerns).resolve_right (Ne.symm hkept.2)
        exact ⟨fun _ => .inr he.symm, fun _ => he⟩
      next hnone =>
        have he : Edit.subscribe t h ≠ e := fun heq =>
          hnone (Edit.concerns_iff.mpr (.inl heq.symm))
        rw [ih hkept.1]
        exact ⟨.inl, fun hor => hor.resolve_right he⟩

end Registry

namespace Simulation

/-- The observers after an action. -/
def Action.enlist (observers : List ObserverId) : Action → List ObserverId
  | .observe o => if o ∈ observers then observers else observers ++ [o]
  | .unobserve o => observers.filter (· ≠ o)
  | _ => observers

namespace World

/-- What is registered in a world is what some actions make of what was registered in another. -/
structure Becomes (w : World) (done : List Action) (w' : World) : Prop where
  registry : w'.registry = w.registry.replay (done.flatMap Action.edits)
  observers : w'.lifecycle.observers = done.foldl Action.enlist w.lifecycle.observers

variable {w w' w'' : World} {done more : List Action} {t : Thread}

theorem Becomes.refl (w : World) : w.Becomes [] w := ⟨rfl, rfl⟩

theorem Becomes.trans (h : w.Becomes done w') (h' : w'.Becomes more w'') :
    w.Becomes (done ++ more) w'' where
  registry := by
    rw [List.flatMap_append, Registry.replay_append, ← h.registry]
    exact h'.registry
  observers := by
    rw [List.foldl_append, ← h.observers]
    exact h'.observers

theorem perform_observers (w : World) (a : Action) :
    (w.perform a).1.lifecycle.observers = a.enlist w.lifecycle.observers := by
  cases a with
  | observe o =>
      simp only [perform, observe, Action.enlist]
      by_cases ho : o ∈ w.lifecycle.observers
      · simp [Lifecycle.addObserver?, ho, (w.report_same _).lifecycle]
      · simp [Lifecycle.addObserver?, ho]
  | unobserve o => rfl
  | _ =>
      rcases (w.perform_does _ [] []).observers with heq | ⟨o, hperformed, _⟩ | ⟨o, hperformed, _⟩
      · exact heq
      · cases hperformed
      · cases hperformed

theorem report_becomes (w : World) (r : LogRecord) : w.Becomes [] (w.report r) where
  registry := congrArg Holdings.registry (w.report_holdings r)
  observers := congrArg Lifecycle.observers (w.report_same r).lifecycle

theorem perform_becomes (w : World) (a : Action) : w.Becomes [a] (w.perform a).1 where
  registry := by
    rw [List.flatMap_singleton]
    exact congrArg Holdings.registry (w.perform_holdings a)
  observers := w.perform_observers a

/-- A step of a thread registers what the action registers that it performs, if it performs one. -/
theorem step_becomes (hshape : Shape t.calls) :
    w.Becomes (Call.performed t.calls.head?) (w.step t).1 where
  registry := w.step_registry t
  observers := by
    have hdoes := (w.step_does t hshape).observers
    obtain ⟨calls, value⟩ := t
    unfold Call.performed
    split
    next a rest hhead =>
      obtain ⟨below, rfl⟩ := List.head?_eq_some_iff.mp hhead
      exact w.perform_observers a
    next hother =>
      have hnone : Call.performed calls.head? = [] := by
        unfold Call.performed
        split
        next a rest hhead => exact absurd hhead (hother a rest)
        next => rfl
      rcases hdoes with heq | ⟨o, hperformed, _⟩ | ⟨o, hperformed, _⟩
      · exact heq
      · rw [hnone] at hperformed
        cases hperformed
      · rw [hnone] at hperformed
        cases hperformed

/-! ## Threads that run to their end -/

/-- The actions that a thread performs while it runs until it has nothing left to do. -/
def finishPerformed : Nat → World → Thread → List Action
  | 0, _, _ => []
  | fuel + 1, w, t =>
    if t.calls.isEmpty then []
    else Call.performed t.calls.head? ++ finishPerformed fuel (w.step t).1 (w.step t).2

/-- The actions that are performed when one is performed from outside, itself the first. -/
def actPerformed (w : World) (a : Action) : List Action :=
  a :: finishPerformed patience (w.perform a).1 ⟨(w.perform a).2.2, (w.perform a).2.1⟩

theorem finish_becomes (fuel : Nat) (w : World) (t : Thread) (hshape : Shape t.calls) :
    w.Becomes (finishPerformed fuel w t) (finish fuel w t).1 := by
  induction fuel generalizing w t with
  | zero => exact .refl w
  | succ fuel ih =>
      unfold finishPerformed finish
      split
      next => exact .refl w
      next => exact (step_becomes hshape).trans (ih _ _ ((w.step_does t hshape).shape hshape))

theorem act_becomes (w : World) (a : Action) : w.Becomes (w.actPerformed a) (w.act a).1 := by
  have hshape : Shape (w.perform a).2.2 := by
    rcases w.perform_leads a with hcalls | hcalls | ⟨e, hcalls⟩ | ⟨o, next, hcalls⟩
    all_goals simp [hcalls, Shape, Call.role, Role.Fits]
  exact (w.perform_becomes a).trans (finish_becomes patience _ _ hshape)

end World

namespace Watcher

/-- The actions that are performed when some are performed from outside one after the other. -/
def allPerformed : World → List Action → List Action
  | _, [] => []
  | w, a :: rest => w.actPerformed a ++ allPerformed (w.act a).1 rest

theorem actAll_becomes (w : World) (actions : List Action) :
    w.Becomes (allPerformed w actions) (actAll w actions) := by
  induction actions generalizing w with
  | nil => exact .refl w
  | cons a rest ih => exact (w.act_becomes a).trans (ih (w.act a).1)

theorem subset_allPerformed (w : World) (actions : List Action) :
    actions ⊆ allPerformed w actions := by
  induction actions generalizing w with
  | nil => exact List.nil_subset _
  | cons a rest ih =>
      refine List.cons_subset.mpr ⟨List.mem_cons_self, fun b hb => ?_⟩
      exact List.mem_append_right _ (ih (w.act a).1 hb)

end Watcher

namespace Pool

/-- A move registers what the action registers that it performs, if it performs one. -/
theorem move_becomes {p : Pool} (hshape : p.Shaped) (m : Move) :
    p.world.Becomes (p.performed m) (p.move m).world := by
  have hidle : ∀ {w : World}, p.call? m = none → w.registry = p.world.registry →
      w.lifecycle = p.world.lifecycle → p.world.Becomes (p.performed m) w := by
    intro w hcall hregistry hlifecycle
    rw [performed, hcall]
    exact ⟨hregistry, by rw [hlifecycle]; rfl⟩
  cases m with
  | step i =>
      rcases p.move_step i with ⟨hcall, hmove⟩ | ⟨before, t, after, hthreads, hcall, hmove⟩
      · rw [hmove]
        exact hidle hcall rfl rfl
      · rw [performed, hcall, hmove]
        exact World.step_becomes (hshape t (by simp [hthreads]))
  | tick time =>
      exact hidle rfl move_registry (p.world.ring_same time).lifecycle
  | poll epoch =>
      simp only [move]
      split
      · exact hidle rfl rfl rfl
      · exact hidle rfl rfl rfl
  | _ => exact hidle rfl rfl rfl

end Pool

/-! ## The program's own -/

/-- Whether an action concerns the event logger or the notifier in another way than a start does. -/
def Action.interferes : Action → Bool
  | .subscribe name .eventLogger => !watchedTypes.any fun t => t.name == name
  | .unsubscribe _ .eventLogger | .unobserve .notifier => true
  | _ => false

/-- The event logger is subscribed to each type of the registry, and the notifier observes the
connection, each once. -/
structure World.Wired (w : World) : Prop where
  logger : ∀ t, t.isKnown = true → (w.registry.handlers t).count .eventLogger = 1
  notifier : w.lifecycle.observers.count .notifier = 1

section Own

variable {done : List Action}

/-- Nobody but a start subscribes the event logger, and nobody unsubscribes it. -/
theorem Action.edits_of_not_interferes {a : Action} (ha : a.interferes = false) {t : EventType} :
    .unsubscribe t .eventLogger ∉ a.edits ∧
      (.subscribe t .eventLogger ∈ a.edits → t.isKnown = true) := by
  cases a with
  | subscribe name h =>
      simp only [edits, List.mem_map, reduceCtorEq, and_false, exists_false, not_false_eq_true,
        true_and]
      rintro ⟨t', ht', heq⟩
      obtain ⟨rfl, rfl⟩ := Registry.Edit.subscribe.inj heq
      obtain ⟨other, hother, hname⟩ : ∃ other ∈ watchedTypes, other.name = name := by
        simpa [interferes] using ha
      rw [← hname, EventType.parse_name] at ht'
      obtain rfl : t' = other := by simpa [Except.toOption] using ht'
      exact mem_watchedTypes.mp hother
  | unsubscribe name h =>
      cases h with
      | eventLogger => cases ha
      | scripted other => simp [edits]
  | _ => exact ⟨List.not_mem_nil, fun h => absurd h List.not_mem_nil⟩

theorem Action.nodup_enlist (a : Action) {observers : List ObserverId} (h : observers.Nodup) :
    (a.enlist observers).Nodup := by
  cases a with
  | observe o =>
      by_cases ho : o ∈ observers
      · rwa [enlist, if_pos ho]
      · rw [enlist, if_neg ho, ← List.concat_eq_append]
        exact List.Nodup.concat ho h
  | unobserve o => exact h.filter _
  | _ => exact h

theorem Action.mem_enlist {a : Action} {observers : List ObserverId} {o : ObserverId} :
    o ∈ a.enlist observers ↔ a = .observe o ∨ o ∈ observers ∧ a ≠ .unobserve o := by
  cases a with
  | observe o' =>
      by_cases ho : o' ∈ observers
      · rw [enlist, if_pos ho]
        refine ⟨fun h => .inr ⟨h, by simp⟩, fun h => h.elim (fun heq => ?_) And.left⟩
        obtain rfl := Action.observe.inj heq
        exact ho
      · rw [enlist, if_neg ho, List.mem_append, List.mem_singleton]
        constructor
        · rintro (hmem | rfl)
          · exact .inr ⟨hmem, by simp⟩
          · exact .inl rfl
        · rintro (heq | ⟨hmem, -⟩)
          · exact .inr (Action.observe.inj heq).symm
          · exact .inl hmem
  | unobserve o' => simp [enlist, @eq_comm _ o o']
  | _ => simp [enlist]

/-- Observers are registered once each. -/
theorem nodup_enlisted (done : List Action) : (done.foldl Action.enlist []).Nodup := by
  induction done using List.reverseRecOn with
  | nil => exact List.nodup_nil
  | append_singleton done a ih =>
      rw [List.foldl_append]
      exact a.nodup_enlist ih

/-- The notifier stays once it has been registered. -/
theorem notifier_enlisted (hothers : ∀ a ∈ done, a.interferes = false)
    (hobserve : .observe .notifier ∈ done) : .notifier ∈ done.foldl Action.enlist [] := by
  induction done using List.reverseRecOn with
  | nil => cases hobserve
  | append_singleton done a ih =>
      rw [List.forall_mem_append, List.forall_mem_singleton] at hothers
      rw [List.mem_append, List.mem_singleton] at hobserve
      rw [List.foldl_append]
      refine Action.mem_enlist.mpr (hobserve.symm.imp Eq.symm fun hmem => ⟨ih hothers.1 hmem, ?_⟩)
      rintro rfl
      cases hothers.2

variable {w w' : World}

theorem World.Becomes.reads (h : w.Becomes done w') (hnew : w.registry = {}) (t : EventType) :
    Registry.Reads (done.flatMap Action.edits) t (w'.registry.handlers t) := by
  rw [h.registry, hnew]
  exact Registry.reads_replay _ t

theorem World.Becomes.logger_iff (h : w.Becomes done w') (hnew : w.registry = {})
    (hothers : ∀ a ∈ done, a.interferes = false) (t : EventType) :
    .eventLogger ∈ w'.registry.handlers t ↔
      .subscribe t .eventLogger ∈ done.flatMap Action.edits := by
  rw [(h.reads hnew t).mem, Registry.subscribed_iff_mem]
  intro hmem
  obtain ⟨a, ha, hedit⟩ := List.mem_flatMap.mp hmem
  exact (Action.edits_of_not_interferes (hothers a ha)).1 hedit

/-- The event logger is subscribed to no other types than those of the registry. -/
theorem World.Becomes.known_of_logger (h : w.Becomes done w') (hnew : w.registry = {})
    (hothers : ∀ a ∈ done, a.interferes = false) {t : EventType}
    (hlogger : .eventLogger ∈ w'.registry.handlers t) : t.isKnown = true := by
  rw [h.logger_iff hnew hothers, List.mem_flatMap] at hlogger
  obtain ⟨a, ha, hedit⟩ := hlogger
  exact (Action.edits_of_not_interferes (hothers a ha)).2 hedit

/-- What a start registers is registered once everything has been done that a start does, whatever
else has been done before, between and after. -/
theorem World.Becomes.wired (h : w.Becomes done w') (hnew : w.registry = {})
    (hnobody : w.lifecycle.observers = []) (hothers : ∀ a ∈ done, a.interferes = false)
    (hdone : Watcher.registrations ⊆ done) : w'.Wired where
  logger := by
    intro t ht
    refine List.count_eq_one_of_mem (h.reads hnew t).nodup ?_
    rw [h.logger_iff hnew hothers, List.mem_flatMap]
    refine ⟨.subscribe t.name .eventLogger, hdone ?_, ?_⟩
    · exact List.mem_cons_of_mem _ (List.mem_map_of_mem (mem_watchedTypes.mpr ht))
    · simp [Action.edits, EventType.parse_name, Except.toOption]
  notifier := by
    have hmem := notifier_enlisted hothers (hdone List.mem_cons_self)
    rw [h.observers, hnobody]
    exact List.count_eq_one_of_mem (nodup_enlisted done) hmem

end Own

end Simulation

end EventFeed
