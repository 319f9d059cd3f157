import EventFeed.Proofs.Dispatch.Deliveries

/-! # Who is subscribed

Whoever makes the calls, the lists of handlers are those that the history of the calls says, and a
handler that has been unsubscribed is not invoked by any delivery that starts later.
-/

namespace EventFeed.Simulation

namespace Pool

/-- As long as the subscriptions start empty, whoever takes part in a run, the list of every type
holds the handlers whose latest call was to subscribe them to it, each once, in the order in which
they joined. Calls about other types leave it alone, a handler that is subscribed again stays where
it is, one that is not there comes to the end, and one that is unsubscribed leaves. Asking for the
number of handlers yields the length of the list. A delivery that starts after a handler has been
unsubscribed does not invoke it, unless it has been subscribed again in the meantime. -/
theorem lists_follow_history {p : Pool} (hnew : p.world.registry = {}) (moves : List Move) :
    let q := p.run moves
    let history := p.trace edits moves
    (∀ t, Registry.Reads history t (q.world.registry.handlers t)) ∧
      (∀ m t, (∀ e ∈ q.edits m, e.type ≠ t) →
        (q.move m).world.registry.handlers t = q.world.registry.handlers t) ∧
      (∀ m t h, q.edits m = [.subscribe t h] → (q.move m).world.registry.handlers t =
        if h ∈ q.world.registry.handlers t then q.world.registry.handlers t
        else q.world.registry.handlers t ++ [h]) ∧
      (∀ m t h, q.edits m = [.unsubscribe t h] →
        (q.move m).world.registry.handlers t = (q.world.registry.handlers t).filter (· ≠ h)) ∧
      (∀ name t, EventType.parse name = .ok t →
        q.world.perform (.count name) =
          (q.world, .count (q.world.registry.handlers t).length, [])) ∧
      ∀ i e calls value h earlier between later,
        q.threads[i]? = some ⟨.deliver e :: calls, value⟩ →
        history = earlier ++ .unsubscribe e.type h :: between →
        .subscribe e.type h ∉ between → q.Lasts i calls.length (.step i :: later) →
          h ∉ q.trace (invoked i calls.length) (.step i :: later) := by
  intro q history
  have hreads : ∀ t, Registry.Reads history t (q.world.registry.handlers t) := by
    intro t
    rw [run_registry moves, hnew]
    exact Registry.reads_replay history t
  have hmove : ∀ {m : Move} {e : Registry.Edit HandlerId}, q.edits m = [e] →
      (q.move m).world.registry = q.world.registry.apply e := by
    intro m e he
    rw [move_registry, he]
    rfl
  refine ⟨hreads, fun m t hother => ?_, fun m t h hm => ?_, fun m t h hm => ?_,
    fun name t hname => ?_, fun i e calls value h earlier between later hdeliver hhistory hagain
      hlasts hinvoked => ?_⟩
  · rw [move_registry, Registry.handlers_replay_of_ne _ _ hother]
  · rw [hmove hm, Registry.apply, Registry.handlers_subscribe]
    by_cases hmem : h ∈ q.world.registry.handlers t <;> simp [hmem]
  · rw [hmove hm, Registry.apply, Registry.handlers_unsubscribe, if_pos rfl]
  · simp only [World.perform, hname]
    rfl
  · have hsubscribed := (hreads e.type).mem h |>.mp (invoked_subset hdeliver hlasts hinvoked)
    rw [hhistory] at hsubscribed
    exact Registry.not_subscribed hagain hsubscribed

/-- One thread changes its mind about three handlers, and another is about to deliver an event. -/
def wavering : Pool where
  world := World.start {} []
  threads := [
    ⟨[.actions [
      .subscribe "service.registered" (.scripted "first"),
      .subscribe "service.registered" (.scripted "second"),
      .subscribe "service.registered" (.scripted "first"),
      .unsubscribe "service.registered" (.scripted "first"),
      .subscribe "service.registered" (.scripted "third"),
      .subscribe "service.registered" (.scripted "first"),
      .unsubscribe "service.registered" (.scripted "second")]], .none⟩,
    ⟨[.deliver ⟨.registry .serviceRegistered, .null, none⟩], .none⟩]

/-- The first thread has made all its calls. -/
def waveringRun : List Move := List.replicate 14 (.step 0)

/-- The moves, after the first, by which the event is delivered. -/
def waveringDelivery : List Move := List.replicate 7 (.step 1)

theorem lists_follow_history_wavering :
    wavering.world.registry = {} ∧
      Registry.Reads (wavering.trace edits waveringRun) (.registry .serviceRegistered)
        [.scripted "third", .scripted "first"] ∧
      (wavering.run waveringRun).Lasts 1 0 (.step 1 :: waveringDelivery) ∧
      .scripted "second" ∉
        (wavering.run waveringRun).trace (invoked 1 0) (.step 1 :: waveringDelivery) := by
  have hlist : (wavering.run waveringRun).world.registry.handlers (.registry .serviceRegistered) =
      [.scripted "third", .scripted "first"] := by decide +kernel
  have hhistory : wavering.trace edits waveringRun =
      (wavering.trace edits waveringRun).take 6 ++
        .unsubscribe (.registry .serviceRegistered) (.scripted "second") :: [] := by
    decide +kernel
  have hlasts : (wavering.run waveringRun).Lasts 1 0 (.step 1 :: waveringDelivery) := by
    decide +kernel
  obtain ⟨hreads, _, _, _, _, hgone⟩ := @lists_follow_history wavering rfl waveringRun
  refine ⟨rfl, hlist ▸ hreads _, hlasts, ?_⟩
  exact hgone 1 ⟨.registry .serviceRegistered, .null, none⟩ [] .none _ _ _ _ rfl hhistory
    (by simp) hlasts

end Pool

end EventFeed.Simulation
