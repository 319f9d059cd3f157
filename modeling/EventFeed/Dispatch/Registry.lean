import EventFeed.Event.Kind

/-! # Subscriptions

For each event type, the handlers that are subscribed to it, in the order in which they came. A
handler is in a list at most once; subscribing it again leaves it where it is, and one that was
removed comes back at the end.
-/

namespace EventFeed

structure Registry (Handler : Type) where
  lists : List (EventType × List Handler) := []

namespace Registry

variable {Handler : Type} [DecidableEq Handler]

def handlers (r : Registry Handler) (type : EventType) : List Handler :=
  ((r.lists.find? fun entry => entry.1 == type).map (·.2)).getD []

def count (r : Registry Handler) (type : EventType) : Nat := (r.handlers type).length

def setList (type : EventType) (list : List Handler) :
    List (EventType × List Handler) → List (EventType × List Handler)
  | [] => [(type, list)]
  | (t, l) :: rest => if t = type then (type, list) :: rest else (t, l) :: setList type list rest

inductive Change where
  | added (count : Nat)
  | alreadyThere
  | removed (remaining : Nat)
  | notThere
  deriving DecidableEq, Repr

/-- Adds a handler at the end of a type's list, unless it is in it. -/
def subscribe (r : Registry Handler) (type : EventType) (h : Handler) :
    Change × Registry Handler :=
  if h ∈ r.handlers type then (.alreadyThere, r)
  else
    let list := r.handlers type ++ [h]
    (.added list.length, ⟨setList type list r.lists⟩)

def unsubscribe (r : Registry Handler) (type : EventType) (h : Handler) :
    Change × Registry Handler :=
  if h ∈ r.handlers type then
    let list := (r.handlers type).filter (· ≠ h)
    (.removed list.length, ⟨setList type list r.lists⟩)
  else (.notThere, r)

omit [DecidableEq Handler] in
theorem handlers_cons (type other : EventType) (list : List Handler)
    (rest : List (EventType × List Handler)) :
    handlers ⟨(type, list) :: rest⟩ other =
      if type = other then list else handlers ⟨rest⟩ other := by
  by_cases h : type = other <;> simp [handlers, h]

omit [DecidableEq Handler] in
@[simp] theorem handlers_setList (lists : List (EventType × List Handler)) (type other : EventType)
    (list : List Handler) :
    handlers ⟨setList type list lists⟩ other =
      if type = other then list else handlers ⟨lists⟩ other := by
  induction lists with
  | nil => simp [setList, handlers_cons]
  | cons entry rest ih =>
    obtain ⟨t, l⟩ := entry
    by_cases ht : t = type
    · subst ht
      by_cases h : t = other <;> simp [setList, handlers_cons, h]
    · rw [setList, if_neg ht, handlers_cons, handlers_cons, ih]
      by_cases h : t = other
      · have : type ≠ other := fun e => ht (h.trans e.symm)
        simp [h, this]
      · simp [h]

end Registry

/-- What came of delivering one event. -/
structure DispatchOutcome where
  /-- The handlers that were invoked, those that failed included. -/
  invoked : Nat := 0
  /-- The handlers that reported an error or broke off. -/
  failed : Nat := 0
  deriving DecidableEq, Repr

end EventFeed
