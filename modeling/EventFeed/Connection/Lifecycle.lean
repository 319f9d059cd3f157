import EventFeed.Connection.State

/-! # The lifecycle of a connection

The state of the connection, the count of explicit requests, and the queue through which observers
learn of changes. Each function here is one atomic section.

Every request to connect or to disconnect starts a new epoch. A session belongs to the epoch in
which it was started, and only the session of the current epoch may change the state. A change is
queued when it happens and taken off the queue by whoever drains it; there is one drainer at a time,
so observers learn of all changes, each once, and in the order in which they happened.
-/

namespace EventFeed

structure Transition where
  previous : ConnectionState
  next : ConnectionState
  deriving DecidableEq, Repr

/-- What is to be told when a state follows another: nothing if it is the same. -/
def ConnectionState.changeTo (previous next : ConnectionState) : List Transition :=
  if previous = next then [] else [⟨previous, next⟩]

@[simp] theorem ConnectionState.changeTo_self (s : ConnectionState) : s.changeTo s = [] :=
  if_pos rfl

structure Lifecycle (Observer : Type) where
  state : ConnectionState := .idle
  /-- The number of requests so far. -/
  epoch : UInt64 := 0
  /-- The epoch of the latest session as long as that session has not been told to stop. -/
  owner : Option UInt64 := none
  /-- The retries since the session of the current epoch started or was last connected. -/
  attempts : UInt32 := 0
  observers : List Observer := []
  /-- The changes that observers have yet to learn of, oldest first. -/
  pending : List Transition := []
  draining : Bool := false

namespace Lifecycle

variable {Observer : Type}

/-- Changes the state and queues the change. Repeating the state is no change. -/
def setState (l : Lifecycle Observer) (next : ConnectionState) : Lifecycle Observer :=
  if l.state = next then l
  else { l with state := next, pending := l.pending ++ [⟨l.state, next⟩] }

/-- Starts an epoch, in which the earlier session is told to stop and no retry has been made. -/
def beginEpoch (l : Lifecycle Observer) : Lifecycle Observer :=
  { l with epoch := l.epoch + 1, owner := none, attempts := 0 }

/-- A request to connect; it is ignored while a connection is open or being opened. Otherwise a
session has to be started for the new epoch. -/
def connect? (l : Lifecycle Observer) : Option (Lifecycle Observer) :=
  if l.state.isActive then none
  else
    let l := l.beginEpoch
    some ({ l with owner := some l.epoch }.setState .connecting)

def disconnect (l : Lifecycle Observer) : Lifecycle Observer :=
  l.beginEpoch.setState .disconnected

/-- A change made by the session of an epoch, perhaps with its count of retries. A session of an
earlier epoch changes nothing. -/
def advance? (l : Lifecycle Observer) (epoch : UInt64) (next : ConnectionState)
    (attempts : Option UInt32) : Option (Lifecycle Observer) :=
  if l.epoch = epoch then some ({ l with attempts := attempts.getD l.attempts }.setState next)
  else none

def isStopped (l : Lifecycle Observer) (epoch : UInt64) : Bool := l.owner != some epoch

/-- Registers an observer; none if it is registered. -/
def addObserver? [DecidableEq Observer] (l : Lifecycle Observer) (o : Observer) :
    Option (Lifecycle Observer) :=
  if o ∈ l.observers then none else some { l with observers := l.observers ++ [o] }

def removeObserver [DecidableEq Observer] (l : Lifecycle Observer) (o : Observer) :
    Lifecycle Observer :=
  { l with observers := l.observers.filter (· ≠ o) }

/-- Becomes the drainer, unless there is one. -/
def enterDrain? (l : Lifecycle Observer) : Option (Lifecycle Observer) :=
  if l.draining then none else some { l with draining := true }

/-- Takes the oldest change off the queue, with the observers registered at that moment. The drainer
that finds the queue empty ceases to be the drainer. -/
def takeTransition (l : Lifecycle Observer) :
    Option (Transition × List Observer) × Lifecycle Observer :=
  match l.pending with
  | [] => (none, { l with draining := false })
  | t :: rest => (some (t, l.observers), { l with pending := rest })

section

variable (l : Lifecycle Observer) (next : ConnectionState)

@[simp] theorem setState_state : (l.setState next).state = next := by
  unfold setState; split <;> simp_all

@[simp] theorem setState_epoch : (l.setState next).epoch = l.epoch := by
  unfold setState; split <;> rfl

@[simp] theorem setState_owner : (l.setState next).owner = l.owner := by
  unfold setState; split <;> rfl

@[simp] theorem setState_attempts : (l.setState next).attempts = l.attempts := by
  unfold setState; split <;> rfl

@[simp] theorem setState_observers : (l.setState next).observers = l.observers := by
  unfold setState; split <;> rfl

@[simp] theorem setState_draining : (l.setState next).draining = l.draining := by
  unfold setState; split <;> rfl

@[simp] theorem setState_pending :
    (l.setState next).pending = l.pending ++ l.state.changeTo next := by
  unfold setState ConnectionState.changeTo; split <;> simp

end

variable {l l' : Lifecycle Observer}

theorem connect?_eq_some : l.connect? = some l' ↔ l.state.isActive = false ∧
    ({ l.beginEpoch with owner := some l.beginEpoch.epoch }.setState .connecting) = l' := by
  unfold connect?
  split <;> simp_all

theorem advance?_eq_some {epoch : UInt64} {next : ConnectionState} {attempts : Option UInt32} :
    l.advance? epoch next attempts = some l' ↔
      l.epoch = epoch ∧ ({ l with attempts := attempts.getD l.attempts }.setState next) = l' := by
  unfold advance?
  split <;> simp_all

theorem addObserver?_eq_some [DecidableEq Observer] {o : Observer} :
    l.addObserver? o = some l' ↔
      o ∉ l.observers ∧ { l with observers := l.observers ++ [o] } = l' := by
  unfold addObserver?
  split <;> simp_all

end Lifecycle

end EventFeed
