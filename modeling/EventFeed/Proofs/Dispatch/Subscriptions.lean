import EventFeed.Proofs.Dispatch.History
import EventFeed.Proofs.Interleaving.Holdings

/-! # Subscriptions in a run

Whoever takes part in a run, the subscriptions are those that the calls made in it lead to.
-/

namespace EventFeed.Simulation

/-- The change of subscriptions that an action makes; a type that has no such name has no list. -/
def Action.edits : Action → List (Registry.Edit HandlerId)
  | .subscribe name h => (EventType.parse name).toOption.toList.map fun t => .subscribe t h
  | .unsubscribe name h => (EventType.parse name).toOption.toList.map fun t => .unsubscribe t h
  | _ => []

/-- The changes of subscriptions that are made when a call goes on. -/
def Call.edits (call : Option Call) : List (Registry.Edit HandlerId) :=
  (Call.performed call).flatMap Action.edits

namespace World

variable (w : World)

@[simp] theorem changeRegistry_holdings (type : EventType)
    (change : Registry.Change × Registry HandlerId) :
    (w.changeRegistry type change).holdings = { w.holdings with registry := change.2 } := by
  simp only [changeRegistry]
  split
  · exact report_holdings _ _
  · rfl

/-- What waits to be read after an action: the far side may have sent something. -/
def inboxesSent : Action → List (List Inbound)
  | .send item link => w.inboxesReceived item (link.getD (w.links.length - 1))
  | _ => w.inboxes

/-- An action changes the subscriptions as it says, and lets something come in if it says so. -/
theorem perform_holdings (a : Action) :
    (w.perform a).1.holdings =
      { w.holdings with
        registry := w.registry.replay a.edits
        inboxes := w.inboxesSent a } := by
  cases a with
  | subscribe name h =>
      simp only [perform, Action.edits]
      cases EventType.parse name with
      | error e => rfl
      | ok t => exact w.changeRegistry_holdings t _
  | unsubscribe name h =>
      simp only [perform, Action.edits]
      cases EventType.parse name with
      | error e => rfl
      | ok t => exact w.changeRegistry_holdings t _
  | count name =>
      simp only [perform]
      cases EventType.parse name <;> rfl
  | dispatch raw =>
      simp only [perform]
      cases Event.parse raw <;> rfl
  | connect => exact holdings_overlooks.connect w
  | disconnect => exact holdings_overlooks.disconnect w
  | observe o => exact holdings_overlooks.observe w o
  | unobserve o => rfl
  | notify o state => cases state <;> rfl
  | send item link => exact w.receive_holdings item _

/-- Nothing but a call that is made to change the subscriptions does so: no delivery, no session,
and no callback that fails. -/
theorem step_registry (t : Thread) :
    (w.step t).1.registry = w.registry.replay (Call.edits t.calls.head?) := by
  obtain ⟨calls, value⟩ := t
  cases calls with
  | nil => rfl
  | cons c calls =>
      cases htouches : c.touches with
      | false =>
          have hnone : Call.edits (some c) = [] := by
            cases c with
            | actions list =>
                cases list with
                | nil => rfl
                | cons => cases htouches
            | _ => rfl
          rw [List.head?_cons, hnone]
          exact congrArg Holdings.registry (w.step_holdings htouches)
      | true =>
          cases c with
          | actions list =>
              cases list with
              | nil => cases htouches
              | cons a rest =>
                  have hedits : Call.edits (some (.actions (a :: rest))) = a.edits :=
                    List.append_nil _
                  rw [List.head?_cons, hedits]
                  exact congrArg Holdings.registry (w.perform_holdings a)
          | handlers e list o =>
              cases list with
              | nil => cases htouches
              | cons h rest =>
                  obtain ⟨_, hkept⟩ := w.callHandler_holdings e h
                  exact congrArg Holdings.registry hkept
          | observer o next =>
              obtain ⟨_, hkept⟩ := w.callObserver_holdings next o
              exact congrArg Holdings.registry hkept
          | session epoch =>
              exact congrArg Holdings.registry (w.runSession_holdings epoch value calls)
          | _ => cases htouches

end World

/-! ## Runs -/

namespace Pool

/-- The changes of subscriptions that a move makes. -/
def edits (p : Pool) (m : Move) : List (Registry.Edit HandlerId) := Call.edits (p.call? m)

variable {p : Pool} {m : Move}

theorem move_registry :
    (p.move m).world.registry = p.world.registry.replay (p.edits m) := by
  rcases World.holdings_overlooks.move p m with ⟨hcall, hmove⟩ | ⟨t, _, hcall, hmove⟩
  · rw [edits, hcall]
    exact congrArg Holdings.registry hmove
  · rw [edits, hcall, hmove]
    exact p.world.step_registry t

/-- The subscriptions after a run are those before it, changed by what has been called in the run,
in the order in which it has been called. -/
theorem run_registry (moves : List Move) :
    (p.run moves).world.registry = p.world.registry.replay (p.trace edits moves) := by
  induction moves using List.reverseRecOn with
  | nil => rfl
  | append_singleton moves m ih =>
      rw [run_concat, trace_concat, Registry.replay_append, ← ih]
      exact move_registry

end Pool

end EventFeed.Simulation
