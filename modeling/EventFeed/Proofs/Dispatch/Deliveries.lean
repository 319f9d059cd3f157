import EventFeed.Proofs.Dispatch.Termination

/-! # Deliveries in a run

A delivery that starts in a run invokes the handlers that were subscribed when it started, in their
order, whatever they do and whoever else is at work, and it comes to its end when its thread is let
alone. The deliveries that its handlers start are deliveries in their own right.
-/

namespace EventFeed.Simulation

/-- A delivery itself changes no subscriptions. -/
theorem Delivering.edits_or_lt {e : Event} {list invoked : List HandlerId} {calls : List Call}
    {ended : List Ending} {t : Thread} (h : Delivering e list calls invoked ended t.calls) :
    Call.edits t.calls.head? = [] ∨ calls.length + 1 < t.calls.length := by
  generalize t.calls = stack at h
  cases h with
  | between => exact Or.inl rfl
  | within =>
      refine Or.inr ?_
      simp only [List.length_append, List.length_cons]
      omega

namespace Pool

/-- What is seen when a thread goes on. -/
def seenAt {α : Type} (i : Nat) (see : Thread → List α) (p : Pool) : Move → List α
  | .step j => if j = i then p.threads[i]?.toList.flatMap see else []
  | _ => []

/-- The handlers that the delivery at a depth of a thread invokes. -/
def invoked (i depth : Nat) : Pool → Move → List HandlerId := seenAt i (Thread.invokes depth)

/-- How the handlers end that the delivery at a depth of a thread has invoked. -/
def ended (i depth : Nat) : Pool → Move → List Ending := seenAt i (Thread.ends depth)

/-- The changes of subscriptions that are made above the delivery at a depth of a thread. -/
def editsAbove (i depth : Nat) : Pool → Move → List (Registry.Edit HandlerId) :=
  seenAt i fun t => if depth + 1 < t.calls.length then Call.edits t.calls.head? else []

def height (p : Pool) (i : Nat) : Nat := ((p.threads[i]?).map fun t => t.calls.length).getD 0

/-- No move is made after the call at a depth of a thread has returned. -/
def Lasts (p : Pool) (i depth : Nat) (moves : List Move) : Prop :=
  ∀ n < moves.length, depth < (p.run (moves.take n)).height i

instance (p : Pool) (i depth : Nat) (moves : List Move) : Decidable (p.Lasts i depth moves) :=
  inferInstanceAs (Decidable (∀ n < moves.length, depth < (p.run (moves.take n)).height i))

/-- A delivery that has started with the first of some moves has not returned. -/
def UnderWay (p : Pool) (i : Nat) (e : Event) (calls : List Call) (moves : List Move) : Prop :=
  ∃ t, (p.run moves).threads[i]? = some t ∧
    Delivering e (p.world.registry.handlers e.type) calls
      (p.trace (invoked i calls.length) moves) (p.trace (ended i calls.length) moves) t.calls

/-- A delivery that has started with the first of some moves has returned with the last: it has
invoked all handlers, all of them have ended, and it yields how many there were and how many of them
have failed. -/
structure Returned (p : Pool) (i : Nat) (e : Event) (calls : List Call) (moves : List Move) :
    Prop where
  thread : (p.run moves).threads[i]? =
    some ⟨calls, .outcome (tally (p.world.registry.handlers e.type)
      (p.trace (ended i calls.length) moves))⟩
  invoked_eq : p.trace (invoked i calls.length) moves = p.world.registry.handlers e.type
  ended_length : (p.trace (ended i calls.length) moves).length =
    (p.world.registry.handlers e.type).length

/-! ## Moves -/

section Moves

variable {α : Type} {see see' : Pool → Move → List α} {p : Pool} {i depth : Nat} {t : Thread}
  {m : Move} {moves later : List Move}

theorem seenAt_step {see : Thread → List α} (ht : p.threads[i]? = some t) :
    seenAt i see p (.step i) = see t := by
  simp [seenAt, ht]

theorem seenAt_of_ne {see : Thread → List α} (hm : m ≠ .step i) : seenAt i see p m = [] := by
  cases m with
  | step j => exact if_neg fun heq => hm (by rw [heq])
  | _ => rfl

theorem height_eq (ht : p.threads[i]? = some t) : p.height i = t.calls.length := by
  rw [height, ht]
  rfl

/-- A thread goes on by its own steps, and its callbacks may make up their minds. Nothing else
concerns it. -/
theorem move_thread (ht : p.threads[i]? = some t) (m : Move) :
    (m = .step i ∧ (p.move m).threads[i]? = some (p.world.step t).2) ∨
      m ≠ .step i ∧ ((p.move m).threads[i]? = some t ∨
        ∃ actions ending, (p.move m).threads[i]? = some (t.decide actions ending)) := by
  obtain ⟨hi, rfl⟩ := List.getElem?_eq_some_iff.mp ht
  cases m with
  | begin actions => exact Or.inr ⟨by simp, Or.inl ((List.getElem?_append_left hi).trans ht)⟩
  | poll epoch =>
      refine Or.inr ⟨by simp, Or.inl ?_⟩
      simp only [move]
      split
      · exact ht
      · exact (List.getElem?_append_left hi).trans ht
  | step j =>
      by_cases hj : j = i
      · subst hj
        exact Or.inl ⟨rfl, by simp [move, hi]⟩
      · refine Or.inr ⟨by simpa using hj, Or.inl ?_⟩
        simp only [move]
        split
        · simp [hj, hi]
        · exact ht
  | decide j actions ending =>
      refine Or.inr ⟨by simp, ?_⟩
      by_cases hj : j = i
      · subst hj
        exact Or.inr ⟨actions, ending, by simp [move, ht]⟩
      · exact Or.inl (by simp [move, hj, ht])
  | tick time => exact Or.inr ⟨by simp, Or.inl ht⟩

theorem trace_congr (h : ∀ before m, before ++ [m] <+: moves →
    see (p.run before) m = see' (p.run before) m) : p.trace see moves = p.trace see' moves := by
  induction moves using List.reverseRecOn with
  | nil => rfl
  | append_singleton moves m ih =>
      rw [trace_concat, trace_concat, h moves m (List.prefix_refl _)]
      rw [ih fun before m' hbefore => h before m' (hbefore.trans (List.prefix_append _ _))]

theorem Lasts.lt_height (h : p.Lasts i depth later) (hearlier : moves ++ [m] <+: later) :
    depth < (p.run moves).height i := by
  have hlength := hearlier.length_le
  rw [List.length_append, List.length_singleton] at hlength
  have hbefore := h moves.length (by omega)
  rwa [← List.prefix_iff_eq_take.mp ((List.prefix_append _ _).trans hearlier)] at hbefore

theorem Lasts.mono (h : p.Lasts i depth later) (hearlier : moves <+: later) :
    p.Lasts i depth moves := by
  obtain ⟨rest, rfl⟩ := hearlier
  intro n hn
  have hbefore := h n (by rw [List.length_append]; omega)
  rwa [List.take_append_of_le_length (Nat.le_of_lt hn)] at hbefore

theorem Lasts.concat (h : p.Lasts i depth moves) (hheight : depth < (p.run moves).height i) :
    p.Lasts i depth (moves ++ [m]) := by
  intro n hn
  rw [List.length_append, List.length_singleton] at hn
  rw [List.take_append_of_le_length (by omega)]
  rcases Nat.lt_or_eq_of_le (Nat.lt_succ_iff.mp hn) with hlt | rfl
  · exact h n hlt
  · rwa [List.take_length]

end Moves

/-! ## Runs -/

section Runs

variable {p : Pool} {i : Nat} {e : Event} {calls : List Call} {value : Value} {m : Move}
  {moves : List Move}

theorem UnderWay.lt_height (h : p.UnderWay i e calls moves) :
    calls.length < (p.run moves).height i := by
  obtain ⟨t, ht, hdelivering⟩ := h
  rw [height_eq ht]
  exact hdelivering.length_lt

theorem Returned.height_eq (h : p.Returned i e calls moves) :
    (p.run moves).height i = calls.length :=
  Pool.height_eq h.thread

/-- A delivery that is under way returns with the next move, or is under way after it. -/
theorem UnderWay.move (h : p.UnderWay i e calls moves) (m : Move) :
    p.UnderWay i e calls (moves ++ [m]) ∨ p.Returned i e calls (moves ++ [m]) := by
  obtain ⟨t, ht, hdelivering⟩ := h
  rcases move_thread ht m with ⟨rfl, hstep⟩ | ⟨hm, hother⟩
  · have hinvoked := @seenAt_step _ _ _ _ (Thread.invokes calls.length) ht
    have hended := @seenAt_step _ _ _ _ (Thread.ends calls.length) ht
    rcases hdelivering.step (p.run moves).world with
      ⟨hreturn, hlist, hlength, hnone, hquiet⟩ | hnext
    · refine Or.inr ⟨?_, ?_, ?_⟩
      · rw [run_concat, hstep, hreturn, trace_concat, ended, hended, hquiet, List.append_nil]
      · rw [trace_concat, invoked, hinvoked, hnone, List.append_nil]
        exact hlist
      · rw [trace_concat, ended, hended, hquiet, List.append_nil]
        exact hlength
    · refine Or.inl ⟨_, by rw [run_concat, hstep], ?_⟩
      rw [trace_concat, trace_concat, invoked, ended, hinvoked, hended]
      exact hnext
  · refine Or.inl ?_
    unfold UnderWay
    rw [run_concat, trace_concat, trace_concat, invoked, ended, seenAt_of_ne hm, seenAt_of_ne hm,
      List.append_nil, List.append_nil]
    rcases hother with hsame | ⟨actions, ending, hdecide⟩
    · exact ⟨t, hsame, hdelivering⟩
    · exact ⟨_, hdecide, hdelivering.decide actions ending⟩

/-- A delivery starts with the handlers that are subscribed then. -/
theorem start_deliver (hdeliver : p.threads[i]? = some ⟨.deliver e :: calls, value⟩) :
    p.UnderWay i e calls [.step i] ∨ p.Returned i e calls [.step i] := by
  have hinvoked : p.trace (invoked i calls.length) [.step i] = [] := by
    simp [trace, invoked, seenAt_step hdeliver, Thread.invokes]
  have hended : p.trace (ended i calls.length) [.step i] = [] := by
    simp [trace, ended, seenAt_step hdeliver, Thread.ends, Call.breaks]
  have hthread : (p.run [.step i]).threads[i]? =
      some (p.world.step ⟨.deliver e :: calls, value⟩).2 := by
    rcases move_thread hdeliver (.step i) with ⟨_, hstep⟩ | ⟨hne, _⟩
    · exact hstep
    · exact absurd rfl hne
  simp only [World.step] at hthread
  cases hlist : p.world.registry.handlers e.type with
  | nil =>
      rw [hlist] at hthread
      refine Or.inr ⟨?_, ?_, ?_⟩
      · rw [hthread, hlist, hended]
        rfl
      · rw [hinvoked, hlist]
      · rw [hended, hlist]
        rfl
  | cons h rest =>
      rw [hlist] at hthread
      refine Or.inl ⟨_, hthread, ?_⟩
      rw [hinvoked, hended, hlist]
      exact .between rfl rfl

theorem run_deliver (hdeliver : p.threads[i]? = some ⟨.deliver e :: calls, value⟩)
    (hlasts : p.Lasts i calls.length (.step i :: moves)) :
    p.UnderWay i e calls (.step i :: moves) ∨ p.Returned i e calls (.step i :: moves) := by
  induction moves using List.reverseRecOn with
  | nil => exact start_deliver hdeliver
  | append_singleton moves m ih =>
      have hearlier : .step i :: moves <+: .step i :: moves ++ [m] := List.prefix_append _ _
      rcases ih (hlasts.mono hearlier) with hunder | hreturned
      · exact hunder.move m
      · -- the run does not go on after the delivery has returned
        have hlt := hlasts.lt_height (List.prefix_refl (.step i :: moves ++ [m]))
        rw [hreturned.height_eq] at hlt
        exact absurd hlt (Nat.lt_irrefl _)

/-- Only handlers that are subscribed when a delivery starts are invoked by it. -/
theorem invoked_subset (hdeliver : p.threads[i]? = some ⟨.deliver e :: calls, value⟩)
    (hlasts : p.Lasts i calls.length (.step i :: moves)) :
    p.trace (invoked i calls.length) (.step i :: moves) ⊆ p.world.registry.handlers e.type := by
  rcases run_deliver hdeliver hlasts with ⟨t, _, hdelivering⟩ | hreturned
  · obtain ⟨rest, hlist⟩ := hdelivering.exists_rest
    rw [← hlist]
    exact List.subset_append_left _ _
  · rw [hreturned.invoked_eq]
    exact List.Subset.refl _

/-- A delivery comes to its end when its thread is let alone. -/
theorem UnderWay.returns (h : p.UnderWay i e calls moves)
    (hlasts : p.Lasts i calls.length moves) :
    ∃ n, p.Lasts i calls.length (moves ++ List.replicate n (.step i)) ∧
      p.Returned i e calls (moves ++ List.replicate n (.step i)) := by
  obtain ⟨t, ht, hdelivering⟩ := h
  -- by induction on what the thread has still to do
  induction hrank : (p.run moves).world.rank t.calls using WellFoundedLT.induction
    generalizing moves t with
  | ind r ih =>
      have hunder : p.UnderWay i e calls moves := ⟨t, ht, hdelivering⟩
      have hnext : p.Lasts i calls.length (moves ++ [.step i]) := hlasts.concat hunder.lt_height
      rcases hunder.move (.step i) with ⟨t', ht', hdelivering'⟩ | hreturned
      · have hstep : (p.run (moves ++ [.step i])).threads[i]? =
            some ((p.run moves).world.step t).2 := by
          rw [run_concat]
          rcases move_thread ht (.step i) with ⟨_, hstep⟩ | ⟨hne, _⟩
          · exact hstep
          · exact absurd rfl hne
        obtain rfl : t' = ((p.run moves).world.step t).2 := by
          rw [ht'] at hstep
          exact Option.some.inj hstep
        have hworld : (p.run (moves ++ [.step i])).world = ((p.run moves).world.step t).1 := by
          simp [Pool.move, ht]
        have hlt : (p.run (moves ++ [.step i])).world.rank
            ((p.run moves).world.step t).2.calls < r := by
          rw [hworld, ← hrank]
          exact hdelivering.rank_lt _
        obtain ⟨n, hlater, hreturned⟩ := ih _ hlt hnext _ ht' hdelivering' rfl
        refine ⟨n + 1, ?_⟩
        rw [List.replicate_succ, ← List.singleton_append, ← List.append_assoc]
        exact ⟨hlater, hreturned⟩
      · exact ⟨1, hnext, hreturned⟩

/-- Before each move that is made while a delivery lasts, it is about to start or is under way. -/
theorem starts_or_underWay {before : List Move}
    (hdeliver : p.threads[i]? = some ⟨.deliver e :: calls, value⟩)
    (hlasts : p.Lasts i calls.length (.step i :: moves))
    (hbefore : before ++ [m] <+: .step i :: moves) :
    before = [] ∨ p.UnderWay i e calls before := by
  cases before with
  | nil => exact Or.inl rfl
  | cons m' before =>
      obtain ⟨rfl, _⟩ := List.cons_prefix_cons.mp hbefore
      have hearlier : .step i :: before <+: .step i :: moves :=
        (List.prefix_append _ _).trans hbefore
      have hlt := hlasts.lt_height hbefore
      rcases run_deliver hdeliver (hlasts.mono hearlier) with hunder | hreturned
      · exact Or.inr hunder
      · rw [hreturned.height_eq] at hlt
        exact absurd hlt (Nat.lt_irrefl _)

/-- While a delivery is under way and no other thread is at work, the subscriptions are changed by
its handlers alone. -/
theorem edits_eq_editsAbove (hdeliver : p.threads[i]? = some ⟨.deliver e :: calls, value⟩)
    (hlasts : p.Lasts i calls.length (.step i :: moves))
    (halone : ∀ j, .step j ∈ moves → j = i) :
    p.trace edits (.step i :: moves) =
      p.trace (editsAbove i calls.length) (.step i :: moves) := by
  refine trace_congr fun before m hbefore => ?_
  by_cases hm : m = .step i
  · subst hm
    rcases starts_or_underWay hdeliver hlasts hbefore with rfl | ⟨t, ht, hdelivering⟩
    · rw [run_nil, edits, editsAbove, seenAt_step hdeliver]
      simp [call?, hdeliver, Call.edits, Call.performed]
    · rw [edits, editsAbove, seenAt_step ht]
      simp only [call?, ht, Option.bind_some]
      rcases hdelivering.edits_or_lt with hnone | habove
      · simp [hnone]
      · rw [if_pos habove]
  · rw [editsAbove, seenAt_of_ne hm]
    cases m with
    | step j =>
        have hmem : Move.step j ∈ .step i :: moves :=
          hbefore.subset (List.mem_append_right _ List.mem_cons_self)
        rcases List.mem_cons.mp hmem with heq | hmem
        · exact absurd heq hm
        · rw [halone j hmem] at hm
          exact absurd rfl hm
    | _ => rfl

end Runs

/-- A delivery that starts with a step of a thread, whatever else the thread is in and whoever else
is at work, invokes the handlers that are subscribed at that moment, each once and in their order,
and as long as it has not returned it lies untouched on what lay there before, with what has come of
it so far. It returns how many they were and how many of them have failed, and it does return when
its thread is let alone. The subscriptions are changed by what is called in the meantime alone, in
the order in which it is called, and by its own handlers alone if no other thread is at work. To
dispatch a frame is to deliver its event; a frame that holds none changes nothing. -/
theorem delivery_keeps_to_its_list (p : Pool) (i : Nat) :
    (∀ e calls value moves, p.threads[i]? = some ⟨.deliver e :: calls, value⟩ →
      p.Lasts i calls.length (.step i :: moves) →
        (p.UnderWay i e calls (.step i :: moves) ∨ p.Returned i e calls (.step i :: moves)) ∧
        (∃ n, p.Lasts i calls.length (.step i :: moves ++ List.replicate n (.step i)) ∧
          p.Returned i e calls (.step i :: moves ++ List.replicate n (.step i))) ∧
        (p.run (.step i :: moves)).world.registry =
          p.world.registry.replay (p.trace edits (.step i :: moves)) ∧
        ((∀ j, .step j ∈ moves → j = i) →
          p.trace edits (.step i :: moves) =
            p.trace (editsAbove i calls.length) (.step i :: moves))) ∧
      ∀ raw rest calls value,
        p.threads[i]? = some ⟨.actions (.dispatch raw :: rest) :: calls, value⟩ →
        p.move (.step i) = ⟨p.world, p.threads.set i
          (match Event.parse raw with
          | .ok e => ⟨.deliver e :: .yielded (.dispatch raw) :: .actions rest :: calls, .none⟩
          | .error e => ⟨.yielded (.dispatch raw) :: .actions rest :: calls, .badFrame e⟩)⟩ := by
  refine ⟨fun e calls value moves hdeliver hlasts => ?_, fun raw rest calls value hdispatch => ?_⟩
  · have hcourse := run_deliver hdeliver hlasts
    refine ⟨hcourse, ?_, run_registry _, edits_eq_editsAbove hdeliver hlasts⟩
    rcases hcourse with hunder | hreturned
    · exact hunder.returns hlasts
    · exact ⟨0, by simpa using hlasts, by simpa using hreturned⟩
  · simp only [move, hdispatch, World.step, World.perform]
    cases Event.parse raw <;> rfl

/-- Three handlers: one unsubscribes itself, subscribes another, has an event dispatched and fails,
and one breaks off whenever it is called. -/
def unruly : Scenario where
  handlers := [
    ("fickle", {
      actions := [
        .unsubscribe "service.registered" (.scripted "fickle"),
        .subscribe "service.registered" (.scripted "late"),
        .dispatch "\x7b\"type\":\"service.registered\"\x7d"]
      ending := .failed "no" }),
    ("rude", { ending := .broken })]

/-- One thread is about to deliver an event to two of them, and another to dispatch a bad frame. -/
def unrulyDelivery : Pool where
  world := { World.start unruly [] with
    registry := ⟨[(.registry .serviceRegistered, [.scripted "fickle", .scripted "rude"])]⟩ }
  threads := [⟨[.deliver ⟨.registry .serviceRegistered, .null, none⟩], .none⟩,
    ⟨[.actions [.dispatch ""]], .none⟩]

/-- The moves, after the first, by which the delivery comes to its end. -/
def unrulyRun : List Move := List.replicate 21 (.step 0)

theorem delivery_keeps_to_its_list_unruly :
    unrulyDelivery.Lasts 0 0 (.step 0 :: unrulyRun) ∧
      unrulyDelivery.trace (invoked 0 0) (.step 0 :: unrulyRun) =
        [.scripted "fickle", .scripted "rude"] ∧
      (unrulyDelivery.run (.step 0 :: unrulyRun)).threads[0]? = some ⟨[], .outcome ⟨2, 2⟩⟩ ∧
      (unrulyDelivery.run (.step 0 :: unrulyRun)).world.registry.handlers
        (.registry .serviceRegistered) = [.scripted "rude", .scripted "late"] ∧
      (Event.parse "").isOk = false ∧
      (unrulyDelivery.move (.step 1)).world = unrulyDelivery.world := by
  have hlasts : unrulyDelivery.Lasts 0 0 (.step 0 :: unrulyRun) := by decide +kernel
  have hheight : (unrulyDelivery.run (.step 0 :: unrulyRun)).height 0 = 0 := by decide +kernel
  have hended : unrulyDelivery.trace (ended 0 0) (.step 0 :: unrulyRun) =
      [.failed "no", .broken] := by
    decide +kernel
  have hedits : (unrulyDelivery.world.registry.replay
      (unrulyDelivery.trace edits (.step 0 :: unrulyRun))).handlers
        (.registry .serviceRegistered) = [.scripted "rude", .scripted "late"] := by
    decide +kernel
  obtain ⟨hcourse, _, hregistry, _⟩ := (delivery_keeps_to_its_list unrulyDelivery 0).1
    ⟨.registry .serviceRegistered, .null, none⟩ [] .none unrulyRun rfl hlasts
  have hdispatch := (delivery_keeps_to_its_list unrulyDelivery 1).2 "" [] [] .none rfl
  rcases hcourse with hunder | hreturned
  · have hlt := hunder.lt_height
    rw [hheight] at hlt
    exact absurd hlt (Nat.not_lt_zero _)
  · have hthread := hreturned.thread
    change _ = some (Thread.mk [] (.outcome (tally _ (unrulyDelivery.trace (ended 0 0) _))))
      at hthread
    rw [hended] at hthread
    refine ⟨hlasts, hreturned.invoked_eq, hthread, ?_, by decide +kernel, ?_⟩
    · rw [hregistry, hedits]
    · rw [hdispatch]

end Pool

end EventFeed.Simulation
