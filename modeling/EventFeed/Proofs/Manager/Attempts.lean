import EventFeed.Proofs.Interleaving.Tasks
import EventFeed.Proofs.Manager.Ownership
import EventFeed.Proofs.Reconnection.Setbacks

/-! # The count of attempts

The lifecycle's count of attempts is that of the session of the current epoch, at every moment and
whoever else is at work. A request starts it over, and sessions of earlier epochs do not touch it.
-/

namespace EventFeed.Simulation

/-! ## Steps -/

namespace World

/-- The number of retries that are allowed. -/
def budget (w : World) : UInt32 := w.scenario.manager.config.maxReconnectAttempts

/-- The session of the current epoch has led the connection through some states, and both counts
agree with them. -/
structure Tallied (w : World) (states : List ConnectionState) : Prop where
  lifecycle : Lifecycle.Tallied w.budget states w.lifecycle
  session : ∀ t ∈ w.tasks, t.session.epoch = w.lifecycle.epoch →
    Session.Tallied w.budget states t.session t.activity

/-- The state to which the session of an epoch leads the connection when a call goes on. -/
def changesBy (w : World) (epoch : UInt64) (call : Option Call) (w' : World) :
    List ConnectionState :=
  if call.any (Call.isSession epoch) then ledTo w.lifecycle.state w'.lifecycle.state else []

variable {w w' : World} {calls calls' : List Call} {states : List ConnectionState}

theorem changesBy_of_state {epoch : UInt64} {call : Option Call}
    (h : w'.lifecycle.state = w.lifecycle.state) : w.changesBy epoch call w' = [] := by
  simp [changesBy, h]

theorem Tallied.of_same (h : w.Tallied states) (hstate : w'.lifecycle.state = w.lifecycle.state)
    (hepoch : w'.lifecycle.epoch = w.lifecycle.epoch)
    (hattempts : w'.lifecycle.attempts = w.lifecycle.attempts)
    (htasks : ∀ t ∈ w'.tasks, t.session.epoch = w.lifecycle.epoch →
      ∃ u ∈ w.tasks, u.session = t.session ∧ u.activity = t.activity)
    (hscenario : w'.scenario = w.scenario) : w'.Tallied states := by
  have hbudget : w'.budget = w.budget := by rw [budget, hscenario]; rfl
  obtain ⟨⟨hcount, hfresh, hspent⟩, hsession⟩ := h
  refine ⟨⟨?_, ?_, ?_⟩, fun t ht he => ?_⟩
  · rw [hattempts, hbudget]
    exact hcount
  · rw [hstate]
    exact hfresh
  · rw [hstate, hbudget]
    exact hspent
  · rw [hepoch] at he
    obtain ⟨u, hu, hsame, hactivity⟩ := htasks t ht he
    rw [hbudget, ← hsame, ← hactivity]
    exact hsession u hu (hsame ▸ he)

/-- A request begins a count of its own. -/
theorem Tallied.request (hbudget : w'.budget = w.budget) (hattempts : w'.lifecycle.attempts = 0)
    (hstate : w'.lifecycle.state ≠ .failed)
    (hsession : ∀ t ∈ w'.tasks, t.session.epoch = w'.lifecycle.epoch →
      t = { session := .start w.scenario.manager.config w'.lifecycle.epoch }) :
    w'.Tallied [] := by
  have hzero : Tallies w'.budget [] 0 := (Nat.zero_min _).symm
  refine ⟨⟨?_, fun _ => rfl, fun hfailed => absurd hfailed hstate⟩, fun t ht he => ?_⟩
  · rw [hattempts]
    exact hzero
  · rw [hsession t ht he]
    exact ⟨hbudget.symm, hzero, fun hnone => by cases hnone⟩

theorem Orderly.inCharge {task : Task} (h : w.Orderly)
    (htask : w.task? w.lifecycle.epoch = some task) :
    w.InCharge task.session task.activity := by
  obtain ⟨howner, hadmits⟩ := h.current _ (mem_posts_of_task? htask)
  have hepoch := epoch_of_task? htask
  exact ⟨hepoch.symm, hepoch ▸ howner, hadmits⟩

/-- A session that goes on takes the place of what it was. -/
theorem session_tasks {epoch : UInt64} {task task' : Task} {value : Value} {w₁ : World}
    {progress : Progress} (htask : w.task? epoch = some task)
    (hstep : w.stepSession task.session task.activity value = (w₁, task'.session, progress))
    (hs : (w₁.setTask task').SameManager w') :
    w'.tasks = w.tasks.map fun t => if t.session.epoch = epoch then task' else t := by
  have hsteps := (steps_of_task? htask hstep).1
  have hepoch : task'.session.epoch = epoch := hsteps.epoch.trans (epoch_of_task? htask)
  rw [hs.tasks, setTask, hsteps.tasks, hepoch]

theorem Tallied.session_step {epoch : UInt64} {task task' : Task} {value : Value} {w₁ : World}
    {progress : Progress} (h : w.Tallied states) (horderly : w.Orderly)
    (htask : w.task? epoch = some task)
    (hstep : w.stepSession task.session task.activity value = (w₁, task'.session, progress))
    (hb : progress.activity? = some task'.activity) (hs : (w₁.setTask task').SameManager w') :
    w'.Tallied (states ++ w.changesBy w.lifecycle.epoch (some (.session epoch)) w') := by
  have hacts := (session_effect htask hstep hs).2
  have htasks := session_tasks htask hstep hs
  have hscenario : w'.scenario = w.scenario := by
    rw [hs.scenario, ← (steps_of_task? htask hstep).1.scenario]
    rfl
  by_cases hcurrent : epoch = w.lifecycle.epoch
  · subst hcurrent
    have hcharge := horderly.inCharge htask
    have hcourse := (stepSession_runs hcharge value).course
    have hattempts := stepSession_attempts hcharge value
    rw [hstep] at hcourse hattempts
    have hlifecycle : w'.lifecycle = w₁.lifecycle := hs.lifecycle
    rw [← hlifecycle] at hcourse hattempts
    have hsession := h.session task (List.mem_of_find?_eq_some htask) (epoch_of_task? htask)
    have hbudget : w'.budget = w.budget := by rw [budget, hscenario]; rfl
    rw [changesBy, if_pos (by simp [Call.isSession])]
    refine ⟨?_, fun t ht he => ?_⟩
    · rw [hbudget]
      exact h.lifecycle.course hsession hcharge (hcourse _ hb) rfl hattempts
    · rw [hbudget]
      rw [htasks] at ht
      obtain ⟨u, _, rfl⟩ := List.mem_map.mp ht
      rw [hacts.epoch_eq.1] at he
      split at he
      next heq =>
        rw [if_pos heq]
        exact hsession.course hcharge (hcourse _ hb)
      next hne => exact absurd he hne
  · have hlifecycle := hacts.eq_of_superseded (Ne.symm hcurrent)
    rw [changesBy_of_state (by rw [hlifecycle]), List.append_nil]
    refine h.of_same (by rw [hlifecycle]) (by rw [hlifecycle]) (by rw [hlifecycle]) ?_ hscenario
    -- a session that has been superseded changes no task but its own
    intro t ht he
    rw [htasks] at ht
    obtain ⟨u, hu, rfl⟩ := List.mem_map.mp ht
    split at he
    next =>
      have hepoch : task'.session.epoch = epoch :=
        (steps_of_task? htask hstep).1.epoch.trans (epoch_of_task? htask)
      exact absurd (hepoch.symm.trans he) hcurrent
    next hne =>
      rw [if_neg hne]
      exact ⟨u, hu, rfl, rfl⟩

/-- A step of the session of the current epoch is counted, and a request starts the count over. -/
theorem Does.tallied (h : w.Does calls w' calls') (horderly : w.Orderly)
    (htallied : w.Tallied states)
    (hfit : w.lifecycle.epoch.toNat + (Call.performed calls.head?).countP Action.isRequest <
      2 ^ 64) :
    (w'.lifecycle.epoch = w.lifecycle.epoch ∧
        w'.Tallied (states ++ w.changesBy w.lifecycle.epoch calls.head? w')) ∨
      (w.lifecycle.epoch < w'.lifecycle.epoch ∧ w'.Tallied []) := by
  have hsame : ∀ {w' : World} {call : Option Call}, w'.lifecycle.state = w.lifecycle.state →
      w'.lifecycle.epoch = w.lifecycle.epoch → w'.lifecycle.attempts = w.lifecycle.attempts →
      (∀ t ∈ w'.tasks, t ∈ w.tasks) → w'.scenario = w.scenario →
      w'.lifecycle.epoch = w.lifecycle.epoch ∧
        w'.Tallied (states ++ w.changesBy w.lifecycle.epoch call w') := by
    intro w' call hstate hepoch hattempts htasks hscenario
    rw [changesBy_of_state hstate, List.append_nil]
    exact ⟨hepoch, htallied.of_same hstate hepoch hattempts
      (fun t ht _ => ⟨t, htasks t ht, rfl, rfl⟩) hscenario⟩
  -- no session is in the epoch that a request begins
  have hold : w.lifecycle.epoch.toNat + 1 < 2 ^ 64 → ∀ t ∈ w.tasks,
      t.session.epoch ≠ w.lifecycle.epoch + 1 := by
    intro hfit t ht heq
    have hlt := horderly.request hfit _ (List.mem_map_of_mem ht)
    rw [heq] at hlt
    exact UInt64.lt_irrefl _ hlt
  cases h with
  | plain hs =>
      refine Or.inl (hsame ?_ ?_ ?_ (fun t ht => hs.tasks ▸ ht) hs.scenario) <;> rw [hs.lifecycle]
  | connect hl hs =>
      obtain ⟨_, rfl⟩ := Lifecycle.connect?_eq_some.mp hl
      have hlifecycle := hs.lifecycle
      have hepoch : w'.lifecycle.epoch = w.lifecycle.epoch + 1 := by
        simp [hlifecycle, Lifecycle.beginEpoch]
      refine Or.inr ⟨hepoch ▸ lt_next_epoch (UInt64.le_refl _) hfit, ?_⟩
      refine @Tallied.request w w' (by rw [budget, hs.scenario]; rfl)
        (by simp [hlifecycle, Lifecycle.beginEpoch]) (by simp [hlifecycle]) fun t ht he => ?_
      rw [hs.tasks] at ht
      rcases List.mem_append.mp ht with ht | ht
      · exact absurd (he.trans hepoch) (hold hfit t ht)
      · rw [List.mem_singleton.mp ht, hlifecycle]
  | disconnect hs =>
      have hlifecycle := hs.lifecycle
      have hepoch : w'.lifecycle.epoch = w.lifecycle.epoch + 1 := by
        simp [hlifecycle, Lifecycle.disconnect, Lifecycle.beginEpoch]
      refine Or.inr ⟨hepoch ▸ lt_next_epoch (UInt64.le_refl _) hfit, ?_⟩
      refine @Tallied.request w w' (by rw [budget, hs.scenario]; rfl)
        (by simp [hlifecycle, Lifecycle.disconnect, Lifecycle.beginEpoch])
        (by simp [hlifecycle, Lifecycle.disconnect]) fun t ht he => ?_
      exact absurd (he.trans hepoch) (hold hfit t (hs.tasks ▸ ht))
  | observe hl =>
      obtain ⟨_, rfl⟩ := Lifecycle.addObserver?_eq_some.mp hl
      exact Or.inl (hsame rfl rfl rfl (fun t ht => ht) rfl)
  | take _ hs =>
      refine Or.inl (hsame ?_ ?_ ?_ (fun t ht => hs.tasks ▸ ht) hs.scenario) <;> rw [hs.lifecycle]
  | session htask hstep hb hs =>
      exact Or.inl ⟨(session_effect htask hstep hs).2.epoch_eq.1,
        htallied.session_step horderly htask hstep hb hs⟩
  | finish htask hstep =>
      obtain ⟨_, hlifecycle⟩ := finish_effect htask hstep
      have hsteps := (steps_of_task? htask hstep).1
      refine Or.inl (hsame ?_ ?_ ?_ (fun t ht => ?_) hsteps.scenario)
      · rw [hlifecycle]
      · rw [hlifecycle]
      · rw [hlifecycle]
      · rw [← hsteps.tasks]
        exact (List.mem_filter.mp ht).1
  | broken => exact Or.inl (hsame rfl rfl rfl (fun t ht => (List.mem_filter.mp ht).1) rfl)
  | _ => exact Or.inl (hsame rfl rfl rfl (fun t ht => ht) rfl)

theorem start_tallied (scenario : Scenario) (opens : List OpenScript) :
    (World.start scenario opens).Tallied [] where
  lifecycle := ⟨(Nat.zero_min _).symm, fun _ => rfl, fun hfailed => by cases hfailed⟩
  session := fun t ht => absurd ht List.not_mem_nil

theorem Tallied.ring (h : w.Tallied states) (time : Nat) : (w.ring time).Tallied states := by
  have hring := w.ring_same time
  have hlifecycle : (w.ring time).lifecycle = w.lifecycle := hring.lifecycle
  refine h.of_same (by rw [hlifecycle]) (by rw [hlifecycle]) (by rw [hlifecycle])
    (fun t ht _ => ?_) hring.scenario
  rw [hring.tasks] at ht
  obtain ⟨u, hu, rfl⟩ := List.mem_map.mp ht
  exact ⟨u, hu, rfl, rfl⟩

end World

/-! ## Runs -/

namespace Pool

/-- The state to which the session of an epoch leads the connection by a move. -/
def changesBy (epoch : UInt64) (p : Pool) (m : Move) : List ConnectionState :=
  p.world.changesBy epoch (p.call? m) (p.move m).world

variable {p : Pool} {moves : List Move} {m : Move} {states : List ConnectionState}
  {epoch : UInt64}

theorem move_superseded (hcall : p.call? m = some (.session epoch))
    (hepoch : epoch ≠ p.world.lifecycle.epoch) :
    (p.move m).world.lifecycle = p.world.lifecycle := by
  obtain ⟨_, value, below, _, _, hmove⟩ := exists_of_session hcall
  rw [hmove]
  exact World.runSession_superseded hepoch value below

/-- A session that cannot change the lifecycle leads the connection nowhere. -/
theorem changesBy_eq_nil (h : p.call? m = some (.session epoch) →
    (p.move m).world.lifecycle = p.world.lifecycle) : p.changesBy epoch m = [] := by
  rw [changesBy, World.changesBy]
  split
  next hany =>
    obtain ⟨c, hcall, hc⟩ := (Option.any_eq_true _ _).mp hany
    cases c with
    | session e =>
        obtain rfl : e = epoch := by simpa [Call.isSession] using hc
        rw [h hcall, ledTo_self]
    | _ => cases hc
  next => rfl

theorem move_tallied (hshape : p.Shaped) (horderly : p.world.Orderly)
    (hfit : p.world.lifecycle.epoch.toNat + p.requests [m] < 2 ^ 64)
    (htallied : p.world.Tallied states) :
    ((p.move m).world.lifecycle.epoch = p.world.lifecycle.epoch ∧
        (p.move m).world.Tallied (states ++ p.changesBy p.world.lifecycle.epoch m)) ∨
      (p.world.lifecycle.epoch < (p.move m).world.lifecycle.epoch ∧
        (p.move m).world.Tallied []) := by
  rcases (p.move_moves m hshape).does with ⟨time, hm, hw⟩ | ⟨calls, calls', hcall, _, hdoes⟩
  · left
    have hlifecycle := (p.world.ring_same time).lifecycle
    have hnothing : p.changesBy p.world.lifecycle.epoch m = [] :=
      changesBy_eq_nil fun _ => by rw [hw, hlifecycle]
    rw [hnothing, List.append_nil, hw]
    exact ⟨by rw [hlifecycle], htallied.ring time⟩
  · rw [performed_requests_eq, hcall] at hfit
    rw [changesBy, hcall]
    exact hdoes.tallied horderly htallied hfit

/-- At every moment both counts agree with what the session of the current epoch has done, and no
session of a later epoch has done anything. -/
theorem run_tallied (hshape : p.Shaped) (horderly : p.world.Orderly)
    (hfit : p.world.lifecycle.epoch.toNat + p.requests moves < 2 ^ 64)
    (htallied : p.world.Tallied []) :
    (p.run moves).world.Tallied
        (p.trace (changesBy (p.run moves).world.lifecycle.epoch) moves) ∧
      ∀ epoch, (p.run moves).world.lifecycle.epoch < epoch →
        p.trace (changesBy epoch) moves = [] := by
  induction moves using List.reverseRecOn with
  | nil => exact ⟨htallied, fun _ _ => rfl⟩
  | append_singleton moves m ih =>
      rw [requests_append] at hfit
      obtain ⟨hrun, hlater⟩ := ih (by omega)
      have hshaped := run_shaped moves hshape
      obtain ⟨horder, hepoch⟩ := run_orderly moves hshape horderly (by omega)
      -- a session of another epoch does nothing by this move
      have hnothing : ∀ epoch, (p.run moves).world.lifecycle.epoch < epoch →
          p.trace (changesBy epoch) (moves ++ [m]) = [] := by
        intro epoch hlt
        rw [trace_concat, hlater epoch hlt, List.nil_append]
        refine changesBy_eq_nil fun hcall => move_superseded hcall fun heq => ?_
        rw [heq] at hlt
        exact UInt64.lt_irrefl _ hlt
      rw [run_concat]
      have hfits : (p.run moves).world.lifecycle.epoch.toNat + (p.run moves).requests [m] <
          2 ^ 64 := by omega
      rcases move_tallied hshaped horder hfits hrun with ⟨hsame, htally⟩ | ⟨hlt, htally⟩
      · rw [hsame]
        refine ⟨?_, hnothing⟩
        rw [trace_concat]
        exact htally
      · refine ⟨?_, fun epoch hle => hnothing epoch (UInt64.lt_trans hlt hle)⟩
        rw [hnothing _ hlt]
        exact htally

/-- A session that is never there leads the connection nowhere. -/
theorem trace_changesBy_eq_nil (h : ∀ before, before <+: moves →
    ∀ t ∈ (p.run before).world.tasks, t.session.epoch ≠ epoch) :
    p.trace (changesBy epoch) moves = [] := by
  induction moves using List.reverseRecOn with
  | nil => rfl
  | append_singleton moves m ih =>
      rw [trace_concat, ih fun before hbefore => h before (hbefore.trans (List.prefix_append _ _)),
        List.nil_append]
      refine changesBy_eq_nil fun hcall => ?_
      obtain ⟨_, value, below, _, _, hmove⟩ := exists_of_session hcall
      have habsent : (p.run moves).world.task? epoch = none :=
        List.find?_eq_none.mpr fun t ht => by
          simpa using h moves (List.prefix_append _ _) t ht
      rw [hmove, World.runSession, habsent]

/-- At every moment of a run, whoever takes part in it and in whatever order, as long as epochs are
left, the count of attempts is the number of changes to reconnecting that the session of the current
epoch has made since it started or since its last change to connected, but never more than the
retries that are allowed. Hence it is zero in an epoch without a session, and while the connection
is idle, connected or disconnected, and it is the number of allowed retries when the connection has
failed. A session of another epoch does not touch it. -/
theorem attempts_count_setbacks (scenario : Scenario) (opens : List OpenScript)
    (moves : List Move) (hrequests : (start scenario opens).requests moves < 2 ^ 64) :
    let p := start scenario opens
    let q := p.run moves
    let l := q.world.lifecycle
    let budget := scenario.manager.config.maxReconnectAttempts
    let r := setbacks (p.trace (changesBy l.epoch) moves)
    l.attempts.toNat = min r budget.toNat ∧
      ((∀ before, before <+: moves → ∀ t ∈ (p.run before).world.tasks,
        t.session.epoch ≠ l.epoch) → r = 0) ∧
      l.attempts ≤ budget ∧
      (l.state ∈ [.idle, .connected, .disconnected] → r = 0 ∧ l.attempts = 0) ∧
      (l.state = .failed → l.attempts = budget) ∧
      ∀ m epoch, q.call? m = some (.session epoch) → epoch ≠ l.epoch →
        (q.move m).world.lifecycle = l := by
  intro p q l budget r
  have hshape : p.Shaped := start_shaped scenario opens
  have hbudget : q.world.budget = budget := by
    rw [World.budget, run_scenario moves hshape]
    rfl
  obtain ⟨⟨hattempts, hfresh, hspent⟩, _⟩ := (run_tallied hshape (.start scenario opens)
    (epochs_fit hrequests) (World.start_tallied scenario opens)).1
  change Tallies q.world.budget _ l.attempts at hattempts
  change l.state = _ → q.world.budget.toNat < r at hspent
  rw [hbudget] at hattempts hspent
  have hcount : l.attempts.toNat = min r budget.toNat := hattempts
  refine ⟨hcount, fun hnone => ?_, ?_, fun hstate => ?_, fun hfailed => ?_, ?_⟩
  · change setbacks _ = 0
    rw [trace_changesBy_eq_nil hnone, setbacks_nil]
  · rw [UInt32.le_iff_toNat_le]
    omega
  · have hzero : r = 0 := hfresh hstate
    refine ⟨hzero, UInt32.toNat_inj.mp ?_⟩
    rw [hcount, hzero, Nat.zero_min]
    rfl
  · have hlt := hspent hfailed
    refine UInt32.toNat_inj.mp ?_
    omega
  · intro m epoch hcall hepoch
    exact move_superseded hcall hepoch

/-- Every attempt is refused, and one retry is allowed. -/
def unwelcome : Scenario where
  manager := { config := { baseReconnectDelayMs := 10, maxReconnectAttempts := 1 } }
  fallback := { answer := .refuse "no" }

/-- A caller connects, and the session tries twice. -/
def unwelcomeRun : List Move :=
  .begin [.connect] :: List.replicate 7 (.step 0) ++ .poll 1 :: List.replicate 14 (.step 1) ++
    .tick 10 :: .poll 1 :: List.replicate 20 (.step 2)

theorem attempts_count_setbacks_unwelcome :
    (start unwelcome []).requests unwelcomeRun < 2 ^ 64 ∧
      ((start unwelcome []).run unwelcomeRun).world.lifecycle.state = .failed ∧
      (start unwelcome []).trace (changesBy 1) unwelcomeRun =
        [.reconnecting, .connecting, .reconnecting, .failed] ∧
      ((start unwelcome []).run unwelcomeRun).world.lifecycle.attempts = 1 := by
  have hrequests : (start unwelcome []).requests unwelcomeRun < 2 ^ 64 := by decide +kernel
  have hfailed : ((start unwelcome []).run unwelcomeRun).world.lifecycle.state = .failed := by
    decide +kernel
  have hled : (start unwelcome []).trace (changesBy 1) unwelcomeRun =
      [.reconnecting, .connecting, .reconnecting, .failed] := by decide +kernel
  have hcount := attempts_count_setbacks unwelcome [] unwelcomeRun hrequests
  exact ⟨hrequests, hfailed, hled, hcount.2.2.2.2.1 hfailed⟩

end Pool

end EventFeed.Simulation
