import EventFeed.Proofs.Manager.Delivery

/-! # Who is told of which change

A change is told to the observers that are registered when it is taken off the queue, to each of
them once, and to nobody else. What happens to the list of observers while the change is told makes
no difference to who is told of it.
-/

namespace EventFeed.Simulation

/-- A change that has been taken off the queue, with the observers registered at that moment. -/
structure Taking where
  change : Transition
  observers : List ObserverId

/-- An observer is called on behalf of the queue, and is told the state to which a change has led;
changes are numbered in the order in which they are taken off the queue. -/
structure Telling where
  number : Nat
  observer : ObserverId
  next : ConnectionState

/-- Whether it is a call of an observer about the change with a number. -/
def Telling.concerns (o : ObserverId) (number : Nat) (t : Telling) : Bool :=
  t.observer == o && t.number == number

def Taking.tellings (t : Taking) (number : Nat) : List Telling :=
  t.observers.map fun o => ⟨number, o, t.change.next⟩

/-- What is to be told in all of changes that are taken off the queue one after the other, the first
of which has a number. -/
def tellingsFrom (first : Nat) (takings : List Taking) : List Telling :=
  (takings.zipIdx first).flatMap fun (t, number) => t.tellings number

/-- Whom a call tells of a change when it goes on. -/
def Call.tellings (number : Nat) : Option Call → List Telling
  | some (.observers next (o :: _)) => [⟨number, o, next⟩]
  | _ => []

/-- Whom a call is still to tell of a change. -/
def Call.untold (number : Nat) : Call → List Telling
  | .observers next rest => rest.map fun o => ⟨number, o, next⟩
  | _ => []

def untold (number : Nat) (calls : List Call) : List Telling := calls.flatMap (Call.untold number)

namespace Pool

def taking (p : Pool) (m : Move) : List Taking :=
  (p.taken m).map fun t => ⟨t, p.world.lifecycle.observers⟩

/-- The calls of observers on behalf of the queue in a run before which some changes have been taken
off the queue. One change is told at a time, the latest of those that have been taken. -/
def tellings (p : Pool) (count : Nat) : List Move → List Telling
  | [] => []
  | m :: moves => Call.tellings (count - 1) (p.call? m) ++
      (p.move m).tellings (count + (p.taking m).length) moves

end Pool

/-! ## What there is to be told -/

section Tellings

variable {first number : Nat} {o : ObserverId} {takings more : List Taking} {t : Telling}

theorem tellingsFrom_append : tellingsFrom first (takings ++ more) =
    tellingsFrom first takings ++ tellingsFrom (first + takings.length) more := by
  rw [tellingsFrom, List.zipIdx_append, List.flatMap_append]
  rfl

theorem mem_tellingsFrom : t ∈ tellingsFrom 0 takings ↔ ∃ taking,
    takings[t.number]? = some taking ∧ t.observer ∈ taking.observers ∧
      t.next = taking.change.next := by
  simp only [tellingsFrom, List.mem_flatMap, Prod.exists, List.mem_zipIdx_iff_getElem?,
    Taking.tellings, List.mem_map]
  constructor
  · rintro ⟨taking, number, htaking, o, ho, rfl⟩
    exact ⟨taking, htaking, ho, rfl⟩
  · rintro ⟨taking, htaking, ho, hnext⟩
    refine ⟨taking, t.number, htaking, t.observer, ho, ?_⟩
    rw [← hnext]

theorem countP_tellings (taking : Taking) (n : Nat) :
    (taking.tellings n).countP (Telling.concerns o number) =
      if n = number then taking.observers.count o else 0 := by
  rw [Taking.tellings, List.countP_map]
  split
  next h =>
    subst h
    rw [List.count]
    refine List.countP_congr fun o' _ => ?_
    simp [Telling.concerns]
  next h =>
    rw [List.countP_eq_zero]
    intro o' _
    simp [Telling.concerns, h]

/-- Of each change there is as much to tell an observer as it was registered. -/
theorem countP_tellingsFrom : (tellingsFrom 0 takings).countP (Telling.concerns o number) =
    ((takings[number]?.map Taking.observers).getD []).count o := by
  induction takings using List.reverseRecOn with
  | nil => rfl
  | append_singleton takings taking ih =>
      have hlast : tellingsFrom takings.length [taking] = taking.tellings takings.length := by
        simp [tellingsFrom]
      rw [tellingsFrom_append, List.countP_append, ih, Nat.zero_add, hlast, countP_tellings]
      rcases Nat.lt_trichotomy number takings.length with hlt | rfl | hgt
      · rw [List.getElem?_append_left hlt, if_neg (Nat.ne_of_gt hlt), Nat.add_zero]
      · simp
      · have hlength : (takings ++ [taking]).length ≤ number := by
          rw [List.length_append, List.length_singleton]
          exact hgt
        rw [List.getElem?_eq_none (Nat.le_of_lt hgt), List.getElem?_eq_none hlength,
          if_neg (Nat.ne_of_lt hgt), Nat.add_zero]

@[simp] theorem untold_append (calls more : List Call) :
    untold number (calls ++ more) = untold number calls ++ untold number more :=
  List.flatMap_append

@[simp] theorem untold_cons (c : Call) (calls : List Call) :
    untold number (c :: calls) = c.untold number ++ untold number calls := List.flatMap_cons

/-- While no change is being told, there is nobody left to be told of one. -/
theorem untold_eq_nil {calls : List Call} (h : inRole .telling calls = 0) :
    untold number calls = [] := by
  rw [inRole, List.countP_eq_zero] at h
  refine List.flatMap_eq_nil_iff.mpr fun c hc => ?_
  have htelling := h c hc
  cases c <;> simp_all [Call.untold, Call.role]

theorem number_of_untold {calls : List Call} (h : t ∈ untold number calls) : t.number = number := by
  obtain ⟨c, _, ht⟩ := List.mem_flatMap.mp h
  cases c with
  | observers next rest =>
      obtain ⟨o, _, rfl⟩ := List.mem_map.mp ht
      rfl
  | _ => cases ht

theorem tellings_of_not_duty {c? : Option Call} (h : ∀ c ∈ c?, c.isDuty = false) :
    Call.tellings number c? = [] := by
  unfold Call.tellings
  split
  · cases h _ rfl
  · rfl

end Tellings

/-! ## Telling the changes -/

namespace Pool

variable {p : Pool} {m : Move} {moves later : List Move} {o : ObserverId} {count : Nat}

theorem tellings_append : p.tellings count (moves ++ later) = p.tellings count moves ++
    (p.run moves).tellings (count + (p.trace taking moves).length) later := by
  induction moves generalizing p count with
  | nil => rfl
  | cons m moves ih =>
      rw [List.cons_append, tellings, ih, tellings, trace, List.length_append, List.append_assoc,
        Nat.add_assoc]
      rfl

/-- Whom a move tells of a change, followed by those who are then still to be told, are those who
were to be told before, followed by those who are registered when a change is taken. -/
theorem Turns.tellings (h : p.Turns m (p.move m)) (hattended : p.Attended) (count : Nat) :
    Call.tellings (count - 1) (p.call? m) ++
        untold (count + (p.taking m).length - 1) (dutiesOf (p.move m).threads) =
      untold (count - 1) (dutiesOf p.threads) ++ tellingsFrom count (p.taking m) := by
  have hle := hattended.drains_le
  obtain ⟨hcall, hothers, hcalls, hbefore, hafter, hserves⟩ := h
  rw [taking, taken, hcall, hafter, hbefore]
  rw [hbefore] at hle
  generalize (p.move m).world = w' at hserves
  cases hserves with
  | apart _ _ _ hhead hduties =>
      rw [tellings_of_not_duty hhead, taken_of_not_duty hhead, hduties]
      simp [tellingsFrom]
  | set _ _ hhead hduties =>
      rw [tellings_of_not_duty hhead, taken_of_not_duty hhead, hduties]
      simp [tellingsFrom, Call.untold]
  | take hpending =>
      -- nobody is left to be told of the change before
      obtain ⟨hb, hc, ha⟩ := tellings_elsewhere (Or.inl rfl) hothers hcalls hle
      simp [Call.tellings, Call.taken, Call.untold, tellingsFrom, Taking.tellings, hpending,
        untold_eq_nil hb, untold_eq_nil hc, untold_eq_nil ha]
  | depart hpending => simp [Call.tellings, Call.taken, Call.untold, tellingsFrom, hpending]
  | tell =>
      -- who is told now comes first among those who are to be told
      obtain ⟨hb, hc, ha⟩ := tellings_elsewhere (Or.inr rfl) hothers hcalls hle
      simp [Call.tellings, Call.taken, Call.untold, tellingsFrom, untold_eq_nil hb,
        untold_eq_nil hc, untold_eq_nil ha]
  | _ => simp [Call.tellings, Call.taken, Call.untold, tellingsFrom]

/-- Of the changes taken off the queue, those are told who are registered when each is taken, in
their order, up to those who are still to be told of the latest. -/
theorem run_tellings (hshape : p.Shaped) (hattended : p.Attended)
    (hsilent : inRole .telling (dutiesOf p.threads) = 0) (moves : List Move) :
    p.tellings 0 moves ++
        untold ((p.trace taking moves).length - 1) (dutiesOf (p.run moves).threads) =
      tellingsFrom 0 (p.trace taking moves) := by
  induction moves using List.reverseRecOn with
  | nil => exact untold_eq_nil hsilent
  | append_singleton moves m ih =>
      have hshaped := run_shaped moves hshape
      have hmove := (((p.run moves).move_moves m hshaped).turns hshaped).tellings
        (run_attended hshape hattended) (p.trace taking moves).length
      have hlast : ∀ (q : Pool) (n : Nat), q.tellings n [m] = Call.tellings (n - 1) (q.call? m) :=
        fun q n => List.append_nil _
      rw [tellings_append, trace_concat, tellingsFrom_append, run_concat, ← ih, List.append_assoc,
        List.append_assoc, List.length_append, Nat.zero_add, hlast, hmove]

theorem trace_taking : (p.trace taking moves).map Taking.change = p.trace taken moves := by
  induction moves generalizing p with
  | nil => rfl
  | cons m moves ih =>
      rw [trace, trace, List.map_append, ih, taking, List.map_map]
      congr 1
      exact List.map_id _

/-- A change is taken by a move, when those are registered who are registered then. -/
theorem exists_of_taking {t : Taking} (h : t ∈ p.trace taking moves) : ∃ before m after,
    moves = before ++ m :: after ∧ t.observers = (p.run before).world.lifecycle.observers := by
  obtain ⟨before, m, after, rfl, ht⟩ := exists_of_mem_trace h
  obtain ⟨_, _, rfl⟩ := List.mem_map.mp ht
  exact ⟨before, m, after, rfl, rfl⟩

theorem mem_of_taking {t : Taking} (hshape : p.Shaped) (ht : t ∈ p.trace taking moves)
    (ho : o ∈ p.world.lifecycle.observers)
    (hkept : Action.unobserve o ∉ p.trace performed moves) : o ∈ t.observers := by
  obtain ⟨before, m, after, rfl, heq⟩ := exists_of_taking ht
  rw [trace_append, List.mem_append, not_or] at hkept
  rw [heq]
  exact run_registered hshape ho hkept.1

theorem not_mem_of_taking {t : Taking} (hshape : p.Shaped) (ht : t ∈ p.trace taking moves)
    (ho : o ∉ p.world.lifecycle.observers)
    (hnone : Action.observe o ∉ p.trace performed moves) : o ∉ t.observers := by
  obtain ⟨before, m, after, rfl, heq⟩ := exists_of_taking ht
  rw [trace_append, List.mem_append, not_or] at hnone
  rw [heq]
  exact run_unregistered hshape hnone.1 ho

theorem nodup_of_taking {t : Taking} (hshape : p.Shaped) (hlisted : p.Listed)
    (ht : t ∈ p.trace taking moves) : t.observers.Nodup := by
  obtain ⟨before, m, after, rfl, heq⟩ := exists_of_taking ht
  rw [heq]
  exact run_listed hshape hlisted

/-- Whoever asks to be registered is registered, whether or not that is new. -/
theorem registered_of_performed (h : Action.observe o ∈ p.performed m) :
    o ∈ (p.move m).world.lifecycle.observers := by
  rw [world_of_performed h]
  change o ∈ (p.world.observe o).lifecycle.observers
  unfold World.observe Lifecycle.addObserver?
  split
  next l hl =>
    split at hl
    · cases hl
    · obtain rfl := Option.some.inj hl
      exact List.mem_append_right _ (List.mem_singleton_self o)
  next hnone =>
    rw [(p.world.report_same _).lifecycle]
    by_contra hnew
    rw [if_neg hnew] at hnone
    cases hnone

theorem unregistered_of_performed (h : Action.unobserve o ∈ p.performed m) :
    o ∉ (p.move m).world.lifecycle.observers := by
  rw [world_of_performed h]
  intro hmem
  obtain ⟨_, hne⟩ := List.mem_filter.mp hmem
  simp at hne

/-- No more changes are taken off the queue than are made. -/
theorem length_taking_le (hshape : p.Shaped) (hpending : p.world.lifecycle.pending = []) :
    (p.trace taking moves).length ≤ (p.trace change moves).length := by
  have hqueue := run_queue hshape moves
  rw [hpending, List.nil_append, ← trace_taking] at hqueue
  rw [← hqueue, List.length_append, List.length_map]
  exact Nat.le_add_right _ _

/-- How often an observer is called about the change with a number. -/
def timesTold (p : Pool) (moves : List Move) (o : ObserverId) (number : Nat) : Nat :=
  (p.tellings 0 moves).countP (Telling.concerns o number)

/-- An observer is called about a change no more often than it was registered when the change was
taken, and as often once there is nobody left to be told of that change. -/
theorem timesTold_account (hshape : p.Shaped) (hattended : p.Attended)
    (hsilent : inRole .telling (dutiesOf p.threads) = 0) (moves : List Move) (o : ObserverId)
    (number : Nat) :
    let takings := p.trace taking moves
    let registered := ((takings[number]?.map Taking.observers).getD []).count o
    p.timesTold moves o number ≤ registered ∧
      (number + 1 < takings.length ∨ (p.run moves).Unattended →
        p.timesTold moves o number = registered) := by
  intro takings registered
  have hrun := run_tellings hshape hattended hsilent moves
  have hcount : p.timesTold moves o number +
      (untold (takings.length - 1) (dutiesOf (p.run moves).threads)).countP
        (Telling.concerns o number) = registered := by
    rw [timesTold, ← List.countP_append, hrun, countP_tellingsFrom]
  refine ⟨by omega, fun hover => ?_⟩
  suffices (untold (takings.length - 1) (dutiesOf (p.run moves).threads)).countP
      (Telling.concerns o number) = 0 by omega
  rcases hover with hlt | hnobody
  · -- whoever is still to be told is to be told of the latest change
    rw [List.countP_eq_zero]
    intro t ht hconcerns
    have hnumber := number_of_untold ht
    simp only [Telling.concerns, Bool.and_eq_true, beq_iff_eq] at hconcerns
    omega
  · have hle := @tellings_le_drains (p.run moves).threads (run_shaped _ hshape)
    rw [hnobody.inRole_eq_zero (Or.inl rfl), Nat.le_zero] at hle
    rw [untold_eq_nil hle]
    rfl

section Start

variable {scenario : Scenario} {opens : List OpenScript} {number : Nat} {taking : Taking}

theorem timesTold_le_one (moves : List Move) (o : ObserverId) (number : Nat) :
    (start scenario opens).timesTold moves o number ≤ 1 := by
  have hshape := start_shaped scenario opens
  refine Nat.le_trans
    (timesTold_account hshape (start_attended scenario opens) rfl moves o number).1 ?_
  cases htaking : ((start scenario opens).trace Pool.taking moves)[number]? with
  | none => exact Nat.zero_le 1
  | some taking =>
      have hnodup := nodup_of_taking hshape List.nodup_nil (List.mem_of_getElem? htaking)
      change taking.observers.count o ≤ 1
      rw [hnodup.count]
      split <;> omega

/-- Whoever was listed when a change was taken is called about it. -/
theorem timesTold_eq_one
    (htaking : ((start scenario opens).trace Pool.taking moves)[number]? = some taking)
    (ho : o ∈ taking.observers)
    (hover : number + 1 < ((start scenario opens).trace Pool.taking moves).length ∨
      ((start scenario opens).run moves).Unattended) :
    (start scenario opens).timesTold moves o number = 1 := by
  have hshape := start_shaped scenario opens
  have hnodup := nodup_of_taking hshape List.nodup_nil (List.mem_of_getElem? htaking)
  have hall := (timesTold_account hshape (start_attended scenario opens) rfl moves o number).2 hover
  rw [htaking] at hall
  rw [hall]
  change taking.observers.count o = 1
  rw [hnodup.count, if_pos ho]

/-- What is taken off the queue after a move as a change that has happened after it, is taken in the
rest of the run. -/
theorem mem_of_taking_later {m : Move} {before after : List Move}
    (hfirst : ((start scenario opens).trace change (before ++ [m])).length ≤ number)
    (htaking : ((start scenario opens).trace Pool.taking (before ++ m :: after))[number]? =
      some taking) :
    taking ∈ ((start scenario opens).run (before ++ [m])).trace Pool.taking after := by
  have hle := Nat.le_trans
    (length_taking_le (start_shaped scenario opens) rfl : ((start scenario opens).trace _
      (before ++ [m])).length ≤ _) hfirst
  rw [List.append_cons, trace_append, List.getElem?_append_right hle] at htaking
  exact List.mem_of_getElem? htaking

theorem timesTold_of_removed {m : Move} {before after : List Move}
    (hremoved : Action.unobserve o ∈ ((start scenario opens).run before).performed m)
    (hnone : Action.observe o ∉
      ((start scenario opens).run (before ++ [m])).trace performed after)
    (hfirst : ((start scenario opens).trace change (before ++ [m])).length ≤ number) :
    (start scenario opens).timesTold (before ++ m :: after) o number = 0 := by
  have hshape := start_shaped scenario opens
  refine Nat.le_zero.mp (Nat.le_trans
    (timesTold_account hshape (start_attended scenario opens) rfl _ o number).1 ?_)
  cases htaking : ((start scenario opens).trace Pool.taking (before ++ m :: after))[number]? with
  | none => exact Nat.le_refl 0
  | some taking =>
      -- the change is taken off the queue later, when the observer is not listed
      have ho := unregistered_of_performed hremoved
      rw [← run_concat] at ho
      have hnot := not_mem_of_taking (run_shaped (before ++ [m]) hshape)
        (mem_of_taking_later hfirst htaking) ho hnone
      exact Nat.le_of_eq (List.count_eq_zero.mpr hnot)

theorem mem_of_added {m : Move} {before during : List Move}
    (hadded : Action.observe o ∈ ((start scenario opens).run before).performed m)
    (hkept : Action.unobserve o ∉
      ((start scenario opens).run (before ++ [m])).trace performed during)
    (hfirst : ((start scenario opens).trace change (before ++ [m])).length ≤ number)
    (htaking : ((start scenario opens).trace Pool.taking (before ++ m :: during))[number]? =
      some taking) : o ∈ taking.observers := by
  have ho := registered_of_performed hadded
  rw [← run_concat] at ho
  exact mem_of_taking (run_shaped (before ++ [m]) (start_shaped scenario opens))
    (mem_of_taking_later hfirst htaking) ho hkept

end Start

/-- In every run, whoever takes part in it and in whatever order:

* no observer is listed twice;
* the changes are taken off the queue in the order in which they happen;
* an observer is called about a change only if it was listed when that change was taken off the
  queue, and then at most once; it has been called when the next change is taken, or when no thread
  is at the queue;
* after a request to remove an observer, however often it was registered, it is not listed and is
  called about no change that happens from then on, until it is registered again;
* an observer that is registered is called once about every change that happens from then on and is
  taken off the queue before there is a request to remove it. -/
theorem changes_are_told_to_the_registered (scenario : Scenario) (opens : List OpenScript)
    (moves : List Move) :
    let p := start scenario opens
    let q := p.run moves
    let takings := p.trace taking moves
    q.world.lifecycle.observers.Nodup ∧
      takings.map Taking.change ++ q.world.lifecycle.pending = p.trace change moves ∧
      (∀ t ∈ p.tellings 0 moves, ∃ taking, takings[t.number]? = some taking ∧
        t.observer ∈ taking.observers ∧ t.next = taking.change.next) ∧
      (∀ o number, p.timesTold moves o number ≤ 1) ∧
      (∀ number taking, takings[number]? = some taking →
        number + 1 < takings.length ∨ q.Unattended →
        ∀ o ∈ taking.observers, p.timesTold moves o number = 1) ∧
      (∀ o before m after, moves = before ++ m :: after →
        Action.unobserve o ∈ (p.run before).performed m →
        Action.observe o ∉ (p.run (before ++ [m])).trace performed after →
        o ∉ q.world.lifecycle.observers ∧
          ∀ number, (p.trace change (before ++ [m])).length ≤ number →
            p.timesTold moves o number = 0) ∧
      ∀ o before m during after, moves = before ++ m :: (during ++ after) →
        Action.observe o ∈ (p.run before).performed m →
        Action.unobserve o ∉ (p.run (before ++ [m])).trace performed during →
        ∀ number, (p.trace change (before ++ [m])).length ≤ number →
          number < (p.trace taking (before ++ m :: during)).length →
          ∃ taking, takings[number]? = some taking ∧ o ∈ taking.observers ∧
            (number + 1 < takings.length ∨ q.Unattended → p.timesTold moves o number = 1) := by
  intro p q takings
  have hshape : p.Shaped := start_shaped scenario opens
  refine ⟨run_listed hshape List.nodup_nil, ?_, ?_, timesTold_le_one moves, ?_, ?_, ?_⟩
  · have hqueue := run_queue hshape moves
    rw [← trace_taking] at hqueue
    exact hqueue
  · intro t ht
    apply mem_tellingsFrom.mp
    rw [← run_tellings hshape (start_attended scenario opens) rfl moves]
    exact List.mem_append_left _ ht
  · intro number taking htaking hover o ho
    exact timesTold_eq_one htaking ho hover
  · intro o before m after hmoves hremoved hnone
    subst hmoves
    refine ⟨?_, fun number hfirst => timesTold_of_removed hremoved hnone hfirst⟩
    have ho := unregistered_of_performed hremoved
    rw [← run_concat] at ho
    change o ∉ (p.run (before ++ m :: after)).world.lifecycle.observers
    rw [List.append_cons, run_append]
    exact run_unregistered (run_shaped _ hshape) hnone ho
  · intro o before m during after hmoves hadded hkept number hfirst hlast
    obtain ⟨taking, htaking⟩ : ∃ taking,
        (p.trace Pool.taking (before ++ m :: during))[number]? = some taking :=
      ⟨_, List.getElem?_eq_getElem hlast⟩
    have ho := mem_of_added hadded hkept hfirst htaking
    have hall : takings[number]? = some taking := by
      change (p.trace Pool.taking moves)[number]? = some taking
      rw [hmoves, ← List.cons_append, ← List.append_assoc, trace_append,
        List.getElem?_append_left hlast]
      exact htaking
    exact ⟨taking, hall, ho, timesTold_eq_one hall ho⟩

/-- A caller registers an observer, and is about to register it again. -/
def registeringTwice : List Move :=
  .begin [.observe (.scripted "watch"), .observe (.scripted "watch"), .connect,
    .unobserve (.scripted "watch"), .disconnect] :: List.replicate 2 (.step 0)

/-- It connects, and is about to remove the observer. -/
def removing : List Move := registeringTwice ++ .step 0 :: List.replicate 11 (.step 0)

theorem changes_are_told_to_the_registered_removing :
    let moves := removing ++ .step 0 :: List.replicate 8 (.step 0)
    (start {} []).timesTold moves (.scripted "watch") 0 = 1 ∧
      (start {} []).timesTold moves (.scripted "watch") 1 = 0 := by
  intro moves
  have hthreads : ((start {} []).run moves).threads = [⟨[], .none⟩] := rfl
  have hconnects : ((start {} []).run (registeringTwice ++ [.step 0])).trace performed
      (List.replicate 11 (.step 0)) = [.connect] := rfl
  have hdisconnects : ((start {} []).run (removing ++ [.step 0])).trace performed
      (List.replicate 8 (.step 0)) = [.disconnect] := rfl
  have hrest : ((start {} []).run moves).Unattended := by
    intro t ht c hc
    rw [hthreads] at ht
    obtain rfl := List.mem_singleton.mp ht
    cases hc
  obtain ⟨_, _, _, _, _, hremoved, hadded⟩ := changes_are_told_to_the_registered {} [] moves
  constructor
  · obtain ⟨_, _, _, hall⟩ := hadded (.scripted "watch") registeringTwice (.step 0)
      (List.replicate 11 (.step 0)) (.step 0 :: List.replicate 8 (.step 0)) rfl
      (List.mem_singleton_self _) (by rw [hconnects]; simp) 0 (by decide) (by decide)
    exact hall (.inr hrest)
  · obtain ⟨_, hnone⟩ := hremoved (.scripted "watch") removing (.step 0)
      (List.replicate 8 (.step 0)) rfl (List.mem_singleton_self _) (by rw [hdisconnects]; simp)
    exact hnone 1 (by decide)

end Pool

end EventFeed.Simulation
