import EventFeed.Proofs.Interleaving.Queue

/-! # How observers learn of changes

Whoever makes a change has the duty to tell it, and finds either that nobody is at the queue, or
that a drainer is, who will come to it. An observer that has been there from the start is told every
change, once and in order, by whichever thread it may be.
-/

namespace EventFeed.Simulation

/-- What an observer is still to be told of a change that has been taken off the queue. -/
def Call.owes (o : ObserverId) : Call → List ConnectionState
  | .observers next rest => List.replicate (rest.count o) next
  | _ => []

/-- What an observer is still to be told of changes that have been taken off the queue. -/
def owed (o : ObserverId) (calls : List Call) : List ConnectionState := calls.flatMap (Call.owes o)

/-- The number of calls in a role. -/
def inRole (r : Role) (calls : List Call) : Nat := calls.countP (·.role = r)

section Counting

variable {o : ObserverId} {r : Role} {c : Call} {calls : List Call}

@[simp] theorem inRole_append (calls more : List Call) :
    inRole r (calls ++ more) = inRole r calls + inRole r more := List.countP_append

@[simp] theorem inRole_cons :
    inRole r (c :: calls) = inRole r calls + if c.role = r then 1 else 0 := by
  simp [inRole, List.countP_cons]

@[simp] theorem owed_append (calls more : List Call) :
    owed o (calls ++ more) = owed o calls ++ owed o more := List.flatMap_append

@[simp] theorem owed_cons : owed o (c :: calls) = c.owes o ++ owed o calls := List.flatMap_cons

theorem inRole_duties (hr : r ≠ .plain ∧ r ≠ .session) :
    inRole r (duties calls) = inRole r calls := by
  rw [inRole, duties, List.countP_filter, inRole]
  refine List.countP_congr fun c _ => ?_
  simp only [Bool.and_eq_true, decide_eq_true_eq, and_iff_left_iff_imp]
  intro hc
  subst hc
  cases hrole : c.role <;> simp_all [Call.isDuty]

/-- While no change is being told, nothing is owed. -/
theorem owed_eq_nil (h : inRole .telling calls = 0) : owed o calls = [] := by
  rw [inRole, List.countP_eq_zero] at h
  refine List.flatMap_eq_nil_iff.mpr fun c hc => ?_
  have htelling := h c hc
  cases c <;> simp_all [Call.owes, Call.role]

/-- Changes are told by drainers. -/
theorem tellings_le_drains {threads : List Thread} (h : ∀ t ∈ threads, Shape t.calls) :
    inRole .telling (Pool.dutiesOf threads) ≤ inRole .drain (Pool.dutiesOf threads) := by
  induction threads with
  | nil => exact Nat.le_refl _
  | cons t threads ih =>
      rw [List.forall_mem_cons] at h
      have htop : inRole .telling t.calls + _ = inRole .drain t.calls := h.1.tellings_add_top
      have hrest := ih h.2
      simp only [Pool.dutiesOf, List.flatMap_cons, inRole_append] at hrest ⊢
      rw [@inRole_duties .telling t.calls (by decide), @inRole_duties .drain t.calls (by decide)]
      omega

end Counting

/-! ## Who is registered -/

namespace World

variable {w w' : World} {calls calls' : List Call}

/-- A step registers an observer that is not registered, or removes one, on request. -/
theorem Does.observers (h : w.Does calls w' calls') :
    w'.lifecycle.observers = w.lifecycle.observers ∨
      (∃ o, Call.performed calls.head? = [.observe o] ∧ o ∉ w.lifecycle.observers ∧
        w'.lifecycle.observers = w.lifecycle.observers ++ [o]) ∨
      ∃ o, Call.performed calls.head? = [.unobserve o] ∧
        w'.lifecycle.observers = w.lifecycle.observers.filter (· ≠ o) := by
  cases h with
  | plain hs => exact Or.inl (by rw [hs.lifecycle])
  | connect hl hs =>
      obtain ⟨_, rfl⟩ := Lifecycle.connect?_eq_some.mp hl
      exact Or.inl (by simp [hs.lifecycle, Lifecycle.beginEpoch])
  | disconnect hs =>
      exact Or.inl (by simp [hs.lifecycle, Lifecycle.disconnect, Lifecycle.beginEpoch])
  | @observe o _ _ _ hl =>
      obtain ⟨hnew, rfl⟩ := Lifecycle.addObserver?_eq_some.mp hl
      exact Or.inr (Or.inl ⟨o, rfl, hnew, rfl⟩)
  | @unobserve o => exact Or.inr (Or.inr ⟨o, rfl, rfl⟩)
  | take _ hs => exact Or.inl (by rw [hs.lifecycle])
  | session htask hstep _ hs => exact Or.inl (session_effect htask hstep hs).2.observers_eq
  | finish htask hstep => exact Or.inl (by rw [(finish_effect htask hstep).2])
  | _ => exact Or.inl rfl

end World

/-- No observer is registered twice. -/
def Pool.Listed (p : Pool) : Prop := p.world.lifecycle.observers.Nodup

namespace Pool

variable {p : Pool} {m : Move} {moves : List Move} {o : ObserverId}

theorem move_observers (hshape : p.Shaped) (m : Move) :
    (p.move m).world.lifecycle.observers = p.world.lifecycle.observers ∨
      (∃ o, p.performed m = [.observe o] ∧ o ∉ p.world.lifecycle.observers ∧
        (p.move m).world.lifecycle.observers = p.world.lifecycle.observers ++ [o]) ∨
      ∃ o, p.performed m = [.unobserve o] ∧
        (p.move m).world.lifecycle.observers = p.world.lifecycle.observers.filter (· ≠ o) := by
  rcases (p.move_moves m hshape).does with ⟨time, _, hw⟩ | ⟨calls, calls', hcall, _, hdoes⟩
  · exact Or.inl (by rw [hw, (p.world.ring_same time).lifecycle])
  · rw [performed, hcall]
    exact hdoes.observers

theorem move_listed (hshape : p.Shaped) (hlisted : p.Listed) : (p.move m).Listed := by
  rcases move_observers hshape m with heq | ⟨o, _, hnew, heq⟩ | ⟨o, _, heq⟩
  · rw [Listed, heq]
    exact hlisted
  · rw [Listed, heq, List.nodup_append]
    refine ⟨hlisted, by simp, fun a ha b hb hab => hnew ?_⟩
    obtain rfl := List.mem_singleton.mp hb
    exact hab ▸ ha
  · rw [Listed, heq]
    exact hlisted.filter _

theorem run_listed (hshape : p.Shaped) (hlisted : p.Listed) : (p.run moves).Listed :=
  run_keeps_of_move (fun _ _ => move_listed) moves hshape hlisted

/-- An observer stays registered until somebody asks to remove it. -/
theorem move_registered (hshape : p.Shaped) (ho : o ∈ p.world.lifecycle.observers)
    (hkept : Action.unobserve o ∉ p.performed m) :
    o ∈ (p.move m).world.lifecycle.observers := by
  rcases move_observers hshape m with heq | ⟨o', _, _, heq⟩ | ⟨o', hperformed, heq⟩
  · rw [heq]
    exact ho
  · rw [heq]
    exact List.mem_append_left _ ho
  · rw [heq]
    refine List.mem_filter.mpr ⟨ho, ?_⟩
    simpa [hperformed] using hkept

theorem run_registered (hshape : p.Shaped) (ho : o ∈ p.world.lifecycle.observers)
    (hkept : Action.unobserve o ∉ p.trace performed moves) :
    o ∈ (p.run moves).world.lifecycle.observers := by
  induction moves using List.reverseRecOn with
  | nil => exact ho
  | append_singleton moves m ih =>
      rw [trace_concat, List.mem_append, not_or] at hkept
      rw [run_concat]
      exact move_registered (run_shaped moves hshape) (ih hkept.1) hkept.2

/-- Nobody is registered unless somebody asks for it. -/
theorem move_unregistered (hshape : p.Shaped) (hnone : Action.observe o ∉ p.performed m)
    (ho : o ∉ p.world.lifecycle.observers) : o ∉ (p.move m).world.lifecycle.observers := by
  rcases move_observers hshape m with heq | ⟨o', hperformed, _, heq⟩ | ⟨o', _, heq⟩
  · rw [heq]
    exact ho
  · rw [heq, List.mem_append, not_or]
    refine ⟨ho, ?_⟩
    simpa [hperformed] using hnone
  · rw [heq]
    intro hmem
    exact ho (List.mem_filter.mp hmem).1

theorem run_unregistered (hshape : p.Shaped) (hnone : Action.observe o ∉ p.trace performed moves)
    (ho : o ∉ p.world.lifecycle.observers) : o ∉ (p.run moves).world.lifecycle.observers := by
  induction moves using List.reverseRecOn with
  | nil => exact ho
  | append_singleton moves m ih =>
      rw [trace_concat, List.mem_append, not_or] at hnone
      rw [run_concat]
      exact move_unregistered (run_shaped moves hshape) hnone.2 (ih hnone.1)

end Pool

/-! ## The drainer -/

/-- There is at most one drainer, and the queue is never left unattended. -/
structure Pool.Attended (p : Pool) : Prop where
  drainers : inRole .drain (Pool.dutiesOf p.threads) = if p.world.lifecycle.draining then 1 else 0
  attended : p.world.lifecycle.pending = [] ∨ p.world.lifecycle.draining = true ∨
    0 < inRole .flush (Pool.dutiesOf p.threads)

namespace Pool

variable {p p' : Pool} {m : Move} {moves : List Move} {o : ObserverId}

theorem Turns.attended (h : p.Turns m p') (hattended : p.Attended) : p'.Attended := by
  obtain ⟨hdrainers, hpending⟩ := hattended
  obtain ⟨_, _, _, hbefore, hafter, hserves⟩ := h
  obtain ⟨w', threads'⟩ := p'
  simp only at hafter hserves
  -- both counts are sums over the threads; only those of one thread change
  rw [hbefore] at hdrainers hpending
  cases hserves with
  | apart _ hp hd _ hduties =>
      refine ⟨?_, ?_⟩
      · simpa [hafter, hduties, hd] using hdrainers
      · simpa [hafter, hduties, hd, hp] using hpending
  | set _ hd _ hduties =>
      refine ⟨?_, Or.inr (Or.inr ?_)⟩
      · simpa [hafter, hduties, hd, Call.role] using hdrainers
      · simp only [hafter, hduties, inRole_append, inRole_cons, Call.role, if_pos]
        omega
  | busy hdraining =>
      refine ⟨?_, Or.inr (Or.inl hdraining)⟩
      simpa [hafter, Call.role] using hdrainers
  | enter hdraining =>
      refine ⟨?_, Or.inr (Or.inl rfl)⟩
      simp [hdraining, Call.role] at hdrainers
      simp [hafter, Call.role, hdrainers]
  | take hp hl =>
      have hdraining : p.world.lifecycle.draining = true := by
        -- the thread is a drainer, so the count is not zero
        by_contra hnot
        simp [hnot, Call.role] at hdrainers
      refine ⟨?_, Or.inr (Or.inl (by rw [hl]; exact hdraining))⟩
      rw [hl]
      simpa [hafter, Call.role] using hdrainers
  | depart hp =>
      refine ⟨?_, Or.inl hp⟩
      -- the one drainer leaves, and by the bound there is no other
      have hle : (if p.world.lifecycle.draining = true then 1 else 0) ≤ 1 := by split <;> simp
      simp [Call.role] at hdrainers
      simp [hafter]
      omega
  | tell =>
      refine ⟨?_, ?_⟩
      · simpa [hafter, Call.role] using hdrainers
      · simpa [hafter, Call.role] using hpending
  | ceased =>
      refine ⟨?_, ?_⟩
      · simpa [hafter, Call.role] using hdrainers
      · simpa [hafter, Call.role] using hpending

theorem run_attended (hshape : p.Shaped) (hattended : p.Attended) : (p.run moves).Attended :=
  run_keeps_of_move (fun q m hshaped => ((q.move_moves m hshaped).turns hshaped).attended) moves
    hshape hattended

theorem start_attended (scenario : Scenario) (opens : List OpenScript) :
    (start scenario opens).Attended := ⟨rfl, Or.inl rfl⟩

/-! ## What an observer is told -/

/-- While a thread takes a change off the queue or tells one, no other call tells one. -/
theorem tellings_elsewhere {before after : List Thread} {c : Call} {calls : List Call}
    (hc : c.role = .drain ∨ c.role = .telling) (hothers : ∀ t ∈ before ++ after, Shape t.calls)
    (hcalls : Shape (c :: calls))
    (hle : inRole .drain (dutiesOf before ++ duties (c :: calls) ++ dutiesOf after) ≤ 1) :
    inRole .telling (dutiesOf before) = 0 ∧ inRole .telling (duties calls) = 0 ∧
      inRole .telling (dutiesOf after) = 0 := by
  -- no drainer is left for the others, hence no telling either
  have hrest := tellings_le_drains hothers
  have htop : inRole .telling (c :: calls) + _ = inRole .drain (c :: calls) :=
    hcalls.tellings_add_top
  rw [dutiesOf, List.flatMap_append, inRole_append, inRole_append] at hrest
  simp only [inRole_append, dutiesOf] at hle ⊢
  rw [@inRole_duties .drain (c :: calls) (by decide)] at hle
  have hbelow := @inRole_duties .telling calls (by decide)
  simp only [inRole_cons, List.head?_cons, Option.map_some] at htop hle
  rcases hc with hc | hc <;> simp only [hc, if_pos, reduceCtorEq] at htop hle <;>
    exact ⟨by omega, by omega, by omega⟩

theorem Attended.drains_le (h : p.Attended) : inRole .drain (dutiesOf p.threads) ≤ 1 := by
  rw [h.drainers]
  split <;> omega

/-- An observer that is registered when a move is made, is told or goes on to be owed, by that move,
what there was to be told and the change that the move makes. -/
theorem Turns.account (h : p.Turns m (p.move m)) (hattended : p.Attended)
    (hregistered : p.world.lifecycle.observers.count o = 1) :
    told o p m ++ owed o (dutiesOf (p.move m).threads) ++
        (p.move m).world.lifecycle.pending.map Transition.next =
      owed o (dutiesOf p.threads) ++ p.world.lifecycle.pending.map Transition.next ++
        (p.change m).map Transition.next := by
  have hle := hattended.drains_le
  obtain ⟨hcall, hothers, hcalls, hbefore, hafter, hserves⟩ := h
  rw [told, change, hcall, hafter, hbefore]
  rw [hbefore] at hle
  generalize (p.move m).world = w' at hserves ⊢
  cases hserves with
  | apart hstate hpending _ hhead hduties =>
      rw [told_of_not_duty hhead, hstate, hpending, hduties]
      simp
  | set hpending _ hhead hduties =>
      rw [told_of_not_duty hhead, hpending, hduties]
      simp [Call.owes]
  | busy => simp [Call.told, Call.owes]
  | enter => simp [Call.told, Call.owes]
  | take hpending hl =>
      -- the change moves from the queue to the calls; nothing older stands between
      obtain ⟨hb, hc, ha⟩ := tellings_elsewhere (Or.inl rfl) hothers hcalls hle
      simp [Call.told, Call.owes, hl, hpending, owed_eq_nil hb, owed_eq_nil hc, owed_eq_nil ha,
        hregistered]
  | depart hpending => simp [Call.told, Call.owes, hpending]
  | @tell next o' rest calls =>
      -- what is told now is what has been owed longest
      obtain ⟨hb, hc, ha⟩ := tellings_elsewhere (Or.inr rfl) hothers hcalls hle
      by_cases ho : o' = o
      · subst ho
        simp [Call.told, Call.owes, owed_eq_nil hb, owed_eq_nil hc, owed_eq_nil ha,
          List.replicate_succ]
      · simp [Call.told, Call.owes, owed_eq_nil hb, owed_eq_nil hc, owed_eq_nil ha, ho]
  | ceased => simp [Call.told, Call.owes]

/-- As long as an observer stays registered, it is told or owed all that there was to be told and
the changes that are made, in their order. -/
theorem run_account (hshape : p.Shaped) (hattended : p.Attended) (hlisted : p.Listed)
    (ho : o ∈ p.world.lifecycle.observers)
    (hkept : Action.unobserve o ∉ p.trace performed moves) :
    p.trace (told o) moves ++ owed o (dutiesOf (p.run moves).threads) ++
        (p.run moves).world.lifecycle.pending.map Transition.next =
      owed o (dutiesOf p.threads) ++ p.world.lifecycle.pending.map Transition.next ++
        (p.trace change moves).map Transition.next := by
  induction moves using List.reverseRecOn with
  | nil => simp
  | append_singleton moves m ih =>
      rw [trace_concat, List.mem_append, not_or] at hkept
      have hshaped := run_shaped moves hshape
      have hcount : (p.run moves).world.lifecycle.observers.count o = 1 := by
        rw [(run_listed hshape hlisted : (p.run moves).Listed).count,
          if_pos (run_registered hshape ho hkept.1)]
      have hmove := (((p.run moves).move_moves m hshaped).turns hshaped).account
        (run_attended hshape hattended) hcount
      -- the account of the last move is put into that of the run before it
      calc
        _ = p.trace (told o) moves ++ (told o (p.run moves) m ++
              owed o (dutiesOf ((p.run moves).move m).threads) ++
              ((p.run moves).move m).world.lifecycle.pending.map Transition.next) := by
          simp
        _ = p.trace (told o) moves ++ owed o (dutiesOf (p.run moves).threads) ++
              (p.run moves).world.lifecycle.pending.map Transition.next ++
              ((p.run moves).change m).map Transition.next := by
          rw [hmove]
          simp
        _ = _ := by
          rw [ih hkept.1]
          simp

/-- As long as no change is taken off the queue, nothing is told. -/
theorem Turns.silent (h : p.Turns m (p.move m)) (htaken : p.taken m = [])
    (hsilent : inRole .telling (dutiesOf p.threads) = 0) :
    told o p m = [] ∧ inRole .telling (dutiesOf (p.move m).threads) = 0 := by
  obtain ⟨hcall, _, _, hbefore, hafter, hserves⟩ := h
  rw [taken, hcall] at htaken
  rw [hbefore] at hsilent
  rw [told, hcall, hafter]
  generalize (p.move m).world = w' at hserves
  cases hserves with
  | apart _ _ _ hhead hduties => exact ⟨told_of_not_duty hhead, by rw [hduties]; exact hsilent⟩
  | set _ _ hhead hduties =>
      refine ⟨told_of_not_duty hhead, ?_⟩
      rw [hduties]
      simpa [Call.role] using hsilent
  | take hpending => simp [Call.taken, hpending] at htaken
  | tell => simp [Call.role] at hsilent
  | ceased => simp [Call.role] at hsilent
  | _ => exact ⟨rfl, by simpa [Call.role] using hsilent⟩

theorem run_silent (hshape : p.Shaped) (htaken : p.trace taken moves = [])
    (hsilent : inRole .telling (dutiesOf p.threads) = 0) :
    p.trace (told o) moves = [] ∧ inRole .telling (dutiesOf (p.run moves).threads) = 0 := by
  induction moves using List.reverseRecOn with
  | nil => exact ⟨rfl, hsilent⟩
  | append_singleton moves m ih =>
      rw [trace_concat, List.append_eq_nil_iff] at htaken
      obtain ⟨htold, hrun⟩ := ih htaken.1
      have hshaped := run_shaped moves hshape
      have hturns := ((p.run moves).move_moves m hshaped).turns hshaped
      obtain ⟨hmove, hnext⟩ := @Turns.silent _ _ o hturns htaken.2 hrun
      rw [trace_concat, htold, hmove, run_concat]
      exact ⟨rfl, hnext⟩

/-- No thread drains the queue or is about to. -/
def Unattended (p : Pool) : Prop :=
  ∀ t ∈ p.threads, ∀ c ∈ t.calls, c.role ≠ .drain ∧ c.role ≠ .flush

theorem Unattended.inRole_eq_zero {r : Role} (h : p.Unattended) (hr : r = .drain ∨ r = .flush) :
    inRole r (dutiesOf p.threads) = 0 := by
  refine List.countP_eq_zero.mpr fun c hc => ?_
  obtain ⟨t, ht, hc⟩ := List.mem_flatMap.mp hc
  have hrole := h t ht c (List.mem_filter.mp hc).1
  rcases hr with rfl | rfl <;> simp [hrole]

/-- When no thread is at the queue, there is nothing to do. -/
theorem Attended.rest (h : p.Attended) (hnobody : p.Unattended) :
    p.world.lifecycle.pending = [] ∧ p.world.lifecycle.draining = false := by
  have hdrains := hnobody.inRole_eq_zero (Or.inl rfl)
  have hflushes := hnobody.inRole_eq_zero (Or.inr rfl)
  have hdraining : p.world.lifecycle.draining = false := by
    rw [h.drainers] at hdrains
    simpa using hdrains
  refine ⟨?_, hdraining⟩
  rcases h.attended with hpending | hbusy | hflush
  · exact hpending
  · rw [hdraining] at hbusy
    cases hbusy
  · omega

theorem Attended.exists_of_pending (h : p.Attended) (hpending : p.world.lifecycle.pending ≠ []) :
    ∃ t ∈ p.threads, ∃ c ∈ t.calls, c.role = .drain ∨ c.role = .flush := by
  by_contra hnobody
  push Not at hnobody
  exact hpending (h.rest fun t ht c hc => hnobody t ht c hc).1

/-- In every run, whoever takes part in it and in whatever order:

* there is at most one drainer;
* while a change is on the queue, some thread drains it or is about to, so that the queue is empty
  and nobody counts as its drainer when no thread does;
* an observer registered before the first change and not removed since is told the states that the
  changes lead to, each once and in order, and has been told all of them when no thread is at the
  queue. -/
theorem observers_learn_of_every_change (scenario : Scenario) (opens : List OpenScript)
    (moves : List Move) :
    let p := start scenario opens
    let q := p.run moves
    (q.threads.flatMap Thread.calls).countP (·.role = .drain) ≤ 1 ∧
      (q.world.lifecycle.pending ≠ [] →
        ∃ t ∈ q.threads, ∃ c ∈ t.calls, c.role = .drain ∨ c.role = .flush) ∧
      (q.Unattended → q.world.lifecycle.pending = [] ∧ q.world.lifecycle.draining = false) ∧
      ∀ o before after, moves = before ++ after → p.trace change before = [] →
        o ∈ (p.run before).world.lifecycle.observers →
        Action.unobserve o ∉ (p.run before).trace performed after →
        p.trace (told o) moves <+: (p.trace change moves).map Transition.next ∧
          (q.Unattended → p.trace (told o) moves = (p.trace change moves).map Transition.next) := by
  intro p q
  have hshape : p.Shaped := start_shaped scenario opens
  have hstart : p.Attended := start_attended scenario opens
  have hattended : q.Attended := run_attended hshape hstart
  refine ⟨?_, hattended.exists_of_pending, hattended.rest, ?_⟩
  · have hdrains : inRole .drain (q.threads.flatMap Thread.calls) =
        if q.world.lifecycle.draining then 1 else 0 := by
      rw [← inRole_duties (by decide), ← dutiesOf_eq]
      exact hattended.drainers
    change inRole .drain (q.threads.flatMap Thread.calls) ≤ 1
    rw [hdrains]
    split <;> omega
  · intro o before after hmoves hquiet ho hkept
    subst hmoves
    -- without a change nothing can have been queued, taken or told
    obtain ⟨htaken, hpending⟩ : p.trace taken before = [] ∧
        (p.run before).world.lifecycle.pending = [] := by
      rw [← List.append_eq_nil_iff, run_queue hshape before, hquiet]
      rfl
    obtain ⟨hsilent, htelling⟩ := @run_silent p before o hshape htaken rfl
    have haccount := run_account (run_shaped before hshape) (run_attended hshape hstart)
      (run_listed hshape List.nodup_nil) ho hkept
    rw [owed_eq_nil htelling, hpending, ← run_append] at haccount
    rw [trace_append, trace_append, hsilent, hquiet]
    change _ ++ owed o (dutiesOf q.threads) ++ q.world.lifecycle.pending.map _ = _ at haccount
    refine ⟨⟨owed o (dutiesOf q.threads) ++ q.world.lifecycle.pending.map Transition.next, ?_⟩,
      fun hnobody => ?_⟩
    · simpa using haccount
    · -- nobody drains, so nobody tells, and the account is settled
      have hle := @tellings_le_drains q.threads (run_shaped _ hshape)
      rw [hnobody.inRole_eq_zero (Or.inl rfl), Nat.le_zero] at hle
      rw [owed_eq_nil hle, (hattended.rest hnobody).1] at haccount
      simpa using haccount

/-- A caller registers an observer. -/
def registering : List Move := [.begin [.observe (.scripted "watch"), .connect], .step 0]

/-- It connects, upon which the observer disconnects and breaks off. -/
def interfering : List Move :=
  List.replicate 6 (.step 0) ++ .decide 0 [.disconnect] .broken :: List.replicate 15 (.step 0)

theorem observers_learn_of_every_change_interfering :
    (start {} []).trace (told (.scripted "watch")) (registering ++ interfering) =
      [.connecting, .disconnected] := by
  have hthreads : ((start {} []).run (registering ++ interfering)).threads = [⟨[], .none⟩] := rfl
  have hperformed : ((start {} []).run registering).trace performed interfering =
      [.connect, .disconnect] := rfl
  have hkept : Action.unobserve (.scripted "watch") ∉
      ((start {} []).run registering).trace performed interfering := by
    rw [hperformed]
    simp
  obtain ⟨_, hall⟩ := (observers_learn_of_every_change {} [] (registering ++ interfering)).2.2.2
    (.scripted "watch") registering interfering rfl (by decide) (by decide) hkept
  refine (hall fun t ht c hc => ?_).trans (by decide)
  rw [hthreads] at ht
  obtain rfl := List.mem_singleton.mp ht
  cases hc

end Pool

end EventFeed.Simulation
