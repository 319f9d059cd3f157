import EventFeed.Proofs.Interleaving.Queue
import EventFeed.Proofs.Manager.Epochs

/-! # Changes of state

A state can be set to any other. Which changes there are follows from what each session knows of the
state when it makes a change, and from the requests.
-/

namespace EventFeed

/-- The states that may come after a state. -/
def ConnectionState.successors : ConnectionState → List ConnectionState
  | idle => [connecting, disconnected]
  | connecting => [connected, reconnecting, disconnected]
  | connected => [reconnecting, disconnected]
  | reconnecting => [connecting, failed, disconnected]
  | failed => [connecting, disconnected]
  | disconnected => [connecting]

namespace Simulation

/-- What a session is about to do can come after any state it can be in. -/
theorem Activity.next?_mem_successors {a : Activity} {state next : ConnectionState}
    (hnext : a.next? = some next) (ha : a.admits state = true) : next ∈ state.successors := by
  cases a with
  | retrying delay => cases delay <;> simp_all [next?, admits, ConnectionState.successors]
  | retreating =>
      obtain rfl := Option.some.inj hnext
      cases state <;> simp_all [admits, ConnectionState.successors]
  | _ => simp_all [next?, admits, ConnectionState.successors]

namespace World

variable {w w' : World} {calls calls' : List Call}

/-- A request can come after any state in which it has an effect. -/
theorem connect?_state_mem {l l' : Lifecycle ObserverId} (h : l.connect? = some l') :
    l'.state ∈ l.state.successors := by
  obtain ⟨hactive, rfl⟩ := Lifecycle.connect?_eq_some.mp h
  rw [Lifecycle.setState_state]
  cases hstate : l.state <;> simp_all [ConnectionState.isActive, ConnectionState.successors]

theorem disconnect_state (l : Lifecycle ObserverId) :
    l.disconnect.state = l.state ∨ l.disconnect.state ∈ l.state.successors := by
  rw [Lifecycle.disconnect, Lifecycle.setState_state]
  cases l.state <;> simp [ConnectionState.successors]

theorem Orderly.acts_state {a : Activity} {epoch : UInt64} {l : Lifecycle ObserverId}
    {progress : Progress} (horderly : w.Orderly) (hpost : (epoch, a) ∈ w.posts)
    (hacts : a.Acts epoch w.lifecycle l progress) :
    l.state = w.lifecycle.state ∨ l.state ∈ w.lifecycle.state.successors := by
  cases hacts with
  | change hnext _ hadvance =>
      obtain ⟨rfl, rfl⟩ := Lifecycle.advance?_eq_some.mp hadvance
      rw [Lifecycle.setState_state]
      exact Or.inr (Activity.next?_mem_successors hnext (horderly.current a hpost).2)
  | _ => exact Or.inl rfl

/-- A step changes the state, if at all, along an edge. -/
theorem Does.state (h : w.Does calls w' calls') (horderly : w.Orderly) :
    w'.lifecycle.state = w.lifecycle.state ∨
      w'.lifecycle.state ∈ w.lifecycle.state.successors := by
  cases h with
  | plain hs => exact Or.inl (by rw [hs.lifecycle])
  | connect hl hs => exact Or.inr (by rw [hs.lifecycle]; exact connect?_state_mem hl)
  | disconnect hs => rw [hs.lifecycle]; exact disconnect_state _
  | observe hl =>
      obtain ⟨_, rfl⟩ := Lifecycle.addObserver?_eq_some.mp hl
      exact Or.inl rfl
  | take _ hs => exact Or.inl (by rw [hs.lifecycle])
  | session htask hstep _ hs =>
      exact horderly.acts_state (mem_posts_of_task? htask) (session_effect htask hstep hs).2
  | finish htask hstep => exact Or.inl (by rw [(finish_effect htask hstep).2])
  | _ => exact Or.inl rfl

end World

namespace Pool

variable {p : Pool} {moves : List Move} {m : Move}

theorem change_follows_edge (hshape : p.Shaped) (horderly : p.world.Orderly) :
    ∀ t ∈ p.change m, t.next ∈ t.previous.successors := by
  have hstate : (p.move m).world.lifecycle.state = p.world.lifecycle.state ∨
      (p.move m).world.lifecycle.state ∈ p.world.lifecycle.state.successors := by
    rcases (p.move_moves m hshape).does with ⟨time, _, hw⟩ | ⟨calls, calls', _, _, hdoes⟩
    · exact Or.inl (by rw [hw, (p.world.ring_same time).lifecycle])
    · exact hdoes.state horderly
  intro t ht
  rw [change, ConnectionState.changeTo] at ht
  split at ht
  next => cases ht
  next hne =>
    obtain rfl := List.mem_singleton.mp ht
    exact hstate.resolve_left (Ne.symm hne)

/-- The state after each change is the state before the next one. -/
theorem states_linked (p : Pool) (moves : List Move) :
    p.world.lifecycle.state :: (p.trace change moves).map Transition.next =
      (p.trace change moves).map Transition.previous ++ [(p.run moves).world.lifecycle.state] := by
  -- from the first move on, since each change starts where the pool then is
  induction moves generalizing p with
  | nil => rfl
  | cons m moves ih =>
      have hrest := ih (p.move m)
      rw [trace, List.map_append, List.map_append, List.append_assoc, run, List.foldl_cons]
      rw [run] at hrest
      rw [← hrest, change, ConnectionState.changeTo]
      split
      next heq => rw [← heq]; rfl
      next => rfl

theorem changes_follow_edges (hshape : p.Shaped) (horderly : p.world.Orderly)
    (hfit : p.world.lifecycle.epoch.toNat + p.requests moves < 2 ^ 64) :
    ∀ t ∈ p.trace change moves, t.next ∈ t.previous.successors := by
  induction moves using List.reverseRecOn with
  | nil => exact List.forall_mem_nil _
  | append_singleton moves m ih =>
      rw [requests_append] at hfit
      have hrun := (run_orderly moves hshape horderly (by omega)).1
      rw [trace_concat, List.forall_mem_append]
      exact ⟨ih (by omega), change_follows_edge (run_shaped moves hshape) hrun⟩

/-- A sequence of changes that are linked, and none of which repeats the state, has no two equal
states in a row. -/
theorem states_distinct {s z : ConnectionState} {changes : List Transition}
    (hlinked : s :: changes.map Transition.next = changes.map Transition.previous ++ [z])
    (hchanges : ∀ t ∈ changes, t.previous ≠ t.next) :
    (s :: changes.map Transition.next).IsChain (· ≠ ·) := by
  induction changes generalizing s with
  | nil => exact .singleton _
  | cons t changes ih =>
      rw [List.forall_mem_cons] at hchanges
      obtain ⟨hs, hrest⟩ := List.cons.inj hlinked
      rw [List.map_cons, List.isChain_cons_cons]
      exact ⟨hs ▸ hchanges.1, ih hrest hchanges.2⟩

/-- The state changes along edges only, whoever takes part in a run and in whatever order, as long
as epochs are left. The changes are queued one by one as they happen, each from the state to which
the one before has led, so that no state repeats itself. -/
theorem states_change_along_edges (scenario : Scenario) (opens : List OpenScript)
    (moves : List Move) (hrequests : (start scenario opens).requests moves < 2 ^ 64) :
    let p := start scenario opens
    let changes := p.trace change moves
    (∀ t ∈ changes, t.next ∈ t.previous.successors) ∧
      p.trace taken moves ++ (p.run moves).world.lifecycle.pending = changes ∧
      ConnectionState.idle :: changes.map Transition.next =
        changes.map Transition.previous ++ [(p.run moves).world.lifecycle.state] ∧
      (ConnectionState.idle :: changes.map Transition.next).IsChain (· ≠ ·) := by
  intro p changes
  have hshape : p.Shaped := start_shaped scenario opens
  have hedges := changes_follow_edges hshape (.start scenario opens) (epochs_fit hrequests)
  have hlinked := p.states_linked moves
  refine ⟨hedges, run_queue hshape moves, hlinked, states_distinct hlinked fun t ht heq => ?_⟩
  -- no state comes after itself
  have hself := hedges t ht
  rw [heq] at hself
  revert hself
  cases t.next <;> decide

/-- A caller connects and disconnects before the session has begun. -/
def hastyRun : List Move := .begin [.connect, .disconnect] :: List.replicate 9 (.step 0)

theorem states_change_along_edges_hasty :
    (start {} []).requests hastyRun < 2 ^ 64 ∧
      ∀ t ∈ (start {} []).trace change hastyRun, t.next ∈ t.previous.successors := by
  have hrequests : (start {} []).requests hastyRun < 2 ^ 64 := by decide
  exact ⟨hrequests, (states_change_along_edges {} [] hastyRun hrequests).1⟩

example : (start {} []).trace change hastyRun =
    [⟨.idle, .connecting⟩, ⟨.connecting, .disconnected⟩] := by decide

end Pool

end Simulation

end EventFeed
