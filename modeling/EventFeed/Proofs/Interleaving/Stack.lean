import EventFeed.Proofs.Interleaving.Pool

/-! # The shape of a thread

Changes are told from the queue by a drainer, which lies on the stack of its thread below the
observers it is calling. Below the callback that such an observer is, and above it, there may be
more calls, but nothing comes between a drainer and the observers it calls, and a duty to tell
changes that has just arisen is taken up before anything else.
-/

namespace EventFeed.Simulation

/-- What a call has to do with the queue of changes. -/
inductive Role where
  /-- Nothing. -/
  | plain
  | flush
  | drain
  /-- A change that has been taken off the queue is told. -/
  | telling
  | session
  deriving DecidableEq

def Call.role : Call → Role
  | .flush => .flush
  | .drain => .drain
  | .observers .. => .telling
  | .session _ => .session
  | _ => .plain

/-- Which call may lie right below another one, or that none may. -/
def Role.Fits (upper : Role) (lower : Option Role) : Prop :=
  (upper = .session → lower = none) ∧ lower ≠ some .flush ∧ (lower = some .drain ↔ upper = .telling)

instance : DecidableRel Role.Fits := fun _ _ => inferInstanceAs (Decidable (_ ∧ _ ∧ _))

/-- The calls of a thread, the top one first, lie as they should. -/
def Shape : List Call → Prop
  | [] => True
  | c :: calls => c.role.Fits (calls.head?.map Call.role) ∧ Shape calls

namespace Shape

variable {c d : Call} {calls popped more : List Call}

theorem below (h : Shape (popped ++ calls)) : Shape calls := by
  induction popped with
  | nil => exact h
  | cons c popped ih => exact ih h.2

/-- Another call may lie where one lies that fits no better. -/
theorem replace (h : Shape (c :: calls)) (hd : ∀ r, c.role.Fits r → d.role.Fits r) :
    Shape (d :: calls) := ⟨hd _ h.1, h.2⟩

/-- Below the task of a session there is nothing. -/
theorem eq_nil_of_session (h : Shape (c :: calls)) (hc : c.role = .session) : calls = [] := by
  simpa using h.1.1 hc

/-- What lies below a plain call is no drainer, and no duty that has just arisen. -/
theorem head_of_plain (h : Shape (popped ++ calls)) (hne : popped ≠ [])
    (hpopped : ∀ c ∈ popped, c.role = .plain) : Role.plain.Fits (calls.head?.map Call.role) := by
  -- only the last of the plain calls touches what lies below
  induction popped with
  | nil => exact absurd rfl hne
  | cons c popped ih =>
      rw [List.forall_mem_cons] at hpopped
      cases popped with
      | nil =>
          rw [← hpopped.1]
          exact h.1
      | cons d popped => exact ih h.2 (List.cons_ne_nil d popped) hpopped.2

/-- Plain calls on top may be exchanged for other plain calls. -/
theorem exchange (h : Shape (popped ++ calls)) (hne : popped ≠ [])
    (hpopped : ∀ c ∈ popped, c.role = .plain) (hmore : ∀ c ∈ more, c.role = .plain) :
    Shape (more ++ calls) := by
  have hhead := h.head_of_plain hne hpopped
  induction more with
  | nil => exact h.below
  | cons c more ih =>
      rw [List.forall_mem_cons] at hmore
      refine ⟨?_, ih hmore.2⟩
      rw [hmore.1]
      cases more with
      | nil => exact hhead
      | cons d more =>
          have hd : d.role = .plain := hmore.2 d List.mem_cons_self
          change Role.plain.Fits (some d.role)
          rw [hd]
          decide

/-- A drainer is at its observers, or on top. -/
theorem tellings_add_top (h : Shape calls) :
    calls.countP (·.role = .telling) + (if calls.head?.map Call.role = some .drain then 1 else 0) =
      calls.countP (·.role = .drain) := by
  induction calls with
  | nil => rfl
  | cons c calls ih =>
      -- a drainer that is not on top has its observers right above it
      have hc := h.1.2.2
      have hcalls := ih h.2
      simp only [List.countP_cons, List.head?_cons, Option.map_some, Option.some.injEq,
        decide_eq_true_eq, hc] at hcalls ⊢
      omega

end Shape

end EventFeed.Simulation
