import EventFeed.Proofs.Interleaving.Moves

/-! # What becomes of the sessions

A session is where it was before a move, or it has been started by the move, or the move was a step
of it. What holds of every session when it starts, and is kept by every step of it, holds of all
sessions at all times.
-/

namespace EventFeed.Simulation

namespace World

variable {w w' : World} {calls calls' : List Call}

/-- How a session has come to be where it is, by the call that has gone on. -/
inductive Follows (w : World) (call : Option Call) : Session → Activity → Prop
  /-- Somebody else has gone on. -/
  | stays {t : Task} : t ∈ w.tasks → call ≠ some (.session t.session.epoch) →
      Follows w call t.session t.activity
  | starts {epoch : UInt64} :
      Follows w call (.start w.scenario.manager.config epoch) .starting
  | steps {t : Task} {value : Value} {w₁ : World} {s : Session} {progress : Progress}
      {b : Activity} : call = some (.session t.session.epoch) →
      w.task? t.session.epoch = some t →
      w.stepSession t.session t.activity value = (w₁, s, progress) →
      progress.activity? = some b → Follows w call s b

theorem Does.scenario (h : w.Does calls w' calls') : w'.scenario = w.scenario := by
  cases h with
  | plain hs => exact hs.scenario
  | connect _ hs => exact hs.scenario
  | disconnect hs => exact hs.scenario
  | take _ hs => exact hs.scenario
  | session htask hstep _ hs => exact hs.scenario.trans (steps_of_task? htask hstep).1.scenario
  | finish htask hstep => exact (steps_of_task? htask hstep).1.scenario
  | _ => rfl

theorem Does.now (h : w.Does calls w' calls') : w'.now = w.now := by
  cases h with
  | plain hs => exact hs.now
  | connect _ hs => exact hs.now
  | disconnect hs => exact hs.now
  | take _ hs => exact hs.now
  | session htask hstep _ hs => exact hs.now.trans (steps_of_task? htask hstep).1.now
  | finish htask hstep => exact (steps_of_task? htask hstep).1.now
  | _ => rfl

theorem Does.follows (h : w.Does calls w' calls') :
    ∀ t ∈ w'.tasks, w.Follows calls.head? t.session t.activity := by
  -- a call that is none of a session leaves the sessions that there are
  have hothers : w'.tasks ⊆ w.tasks → (∀ epoch, calls.head? ≠ some (.session epoch)) →
      ∀ t ∈ w'.tasks, w.Follows calls.head? t.session t.activity := by
    intro htasks hcall t ht
    exact .stays (htasks ht) (hcall _)
  have hplain : ∀ {c : Call} {below : List Call}, c.role ≠ .session →
      ∀ epoch, (c :: below).head? ≠ some (.session epoch) := by
    intro c below hc epoch heq
    rw [Option.some.inj heq] at hc
    exact hc rfl
  cases h with
  | nothing => exact hothers (List.Subset.refl _) (by simp)
  | @plain _ popped more below hs hne hpopped =>
      cases popped with
      | nil => exact absurd rfl hne
      | cons c popped =>
          have hc := hpopped c List.mem_cons_self
          exact hothers (hs.tasks ▸ List.Subset.refl _) (hplain (by simp [hc]))
  | connect _ hs =>
      intro t ht
      rw [hs.tasks] at ht
      rcases List.mem_append.mp ht with ht | ht
      · exact .stays ht (hplain (by simp [Call.role]) _)
      · rw [List.mem_singleton.mp ht]
        exact .starts
  | disconnect hs => exact hothers (hs.tasks ▸ List.Subset.refl _) (hplain (by simp [Call.role]))
  | take _ hs => exact hothers (hs.tasks ▸ List.Subset.refl _) (hplain (by simp [Call.role]))
  | absent htask =>
      intro t ht
      refine .stays ht ?_
      intro heq
      cases heq
      have hnone := List.find?_eq_none.mp htask t ht
      simp at hnone
  | @session epoch task task' value w₁ _ progress below htask hstep hb hs =>
      intro t ht
      obtain rfl := epoch_of_task? htask
      have hsteps := (steps_of_task? htask hstep).1
      have hepoch : task'.session.epoch = task.session.epoch := hsteps.epoch
      rw [hs.tasks, setTask, hsteps.tasks] at ht
      obtain ⟨u, hu, rfl⟩ := List.mem_map.mp ht
      split
      next => exact .steps rfl htask hstep hb
      next hne =>
        refine .stays hu ?_
        intro heq
        obtain heq := Call.session.inj (Option.some.inj heq)
        exact hne (heq.symm.trans hepoch.symm)
  | @finish epoch task value s w₁ below htask hstep =>
      intro t ht
      obtain ⟨ht, hne⟩ := List.mem_filter.mp ht
      rw [(steps_of_task? htask hstep).1.tasks] at ht
      refine .stays ht ?_
      intro heq
      cases heq
      simp at hne
  | @broken c popped epoch _ _ hpopped =>
      have hc := hpopped c List.mem_cons_self
      exact hothers (fun t ht => (List.mem_filter.mp ht).1) (hplain (by simp [hc]))
  | _ => exact hothers (List.Subset.refl _) (hplain (by simp [Call.role]))

end World

/-! ## Runs -/

namespace Pool

variable {p : Pool} {m : Move}

/-- What is fixed stays as it is. -/
theorem run_scenario (moves : List Move) (hshape : p.Shaped) :
    (p.run moves).world.scenario = p.world.scenario := by
  refine @run_keeps_of_move (fun q => q.world.scenario = p.world.scenario) p
    (fun q m hshaped hq => ?_) moves hshape rfl
  rcases (q.move_moves m hshaped).does with ⟨time, _, hw⟩ | ⟨_, _, _, _, hdoes⟩
  · rw [hw, (q.world.ring_same time).scenario]
    exact hq
  · exact hdoes.scenario.trans hq

/-- Only the clock's own moves take time. -/
theorem now_move (m : Move) (hshape : p.Shaped) : (p.move m).world.now = p.world.now ∨
    ∃ time, m = .tick time ∧ (p.move m).world.now = max p.world.now time := by
  rcases (p.move_moves m hshape).does with ⟨time, rfl, hw⟩ | ⟨_, _, _, _, hdoes⟩
  · refine .inr ⟨time, rfl, ?_⟩
    rw [hw, (p.world.ring_same time).now]
  · exact .inl hdoes.now

theorem now_le_move (m : Move) (hshape : p.Shaped) : p.world.now ≤ (p.move m).world.now := by
  rcases p.now_move m hshape with hnow | ⟨time, _, hnow⟩
  · exact Nat.le_of_eq hnow.symm
  · rw [hnow]
    exact Nat.le_max_left _ _

/-- Time does not run backwards. -/
theorem now_le_run (moves : List Move) (hshape : p.Shaped) :
    p.world.now ≤ (p.run moves).world.now := by
  refine @run_keeps_of_move (fun q => p.world.now ≤ q.world.now) p
    (fun q m hshaped hq => ?_) moves hshape (Nat.le_refl _)
  exact Nat.le_trans hq (q.now_le_move m hshaped)

theorem move_follows (hshape : p.Shaped) :
    ∀ t ∈ (p.move m).world.tasks, p.world.Follows (p.call? m) t.session t.activity := by
  rcases (p.move_moves m hshape).does with ⟨time, rfl, hw⟩ | ⟨calls, _, hcall, _, hdoes⟩
  · intro t ht
    rw [hw, (p.world.ring_same time).tasks] at ht
    obtain ⟨u, hu, rfl⟩ := List.mem_map.mp ht
    have hnone : p.call? (.tick time) ≠ some (.session u.session.epoch) := by simp [call?]
    exact @World.Follows.stays _ _ u hu hnone
  · rw [hcall]
    exact hdoes.follows

end Pool

end EventFeed.Simulation
