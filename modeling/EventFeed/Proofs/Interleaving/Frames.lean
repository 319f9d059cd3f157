import EventFeed.Proofs.Interleaving.Stack

/-! # What lies below a call

A step concerns the call on top of a thread, and whatever that calls comes on top of what lies
below. Only a failure reaches further: an error that a handler reports concerns the delivery right
below it, and a callback that breaks off goes down to the nearest call that takes note of it.
-/

namespace EventFeed.Simulation

namespace Call

/-- Whether a call takes note of the failure of a callback that it has called. -/
def catches : Call → Bool
  | handlers .. | observers .. => true
  | _ => false

/-- Whether a callback is about to break off. -/
def breaks : Call → Bool
  | handled _ .broken | observed true => true
  | _ => false

end Call

/-- What is left of some calls when a callback above them has broken off. -/
def caught : List Call → List Call
  | [] => []
  | .handlers e rest o :: calls => .handlers e rest { o with failed := o.failed + 1 } :: calls
  | .observers next rest :: calls => .observers next rest :: calls
  | _ :: calls => caught calls

section Caught

variable {c : Call} {above calls : List Call}

theorem caught_cons_of_not (hc : c.catches = false) : caught (c :: calls) = caught calls := by
  cases c <;> first | rfl | cases hc

theorem caught_append_of_not (habove : above.any Call.catches = false) :
    caught (above ++ calls) = caught calls := by
  induction above with
  | nil => rfl
  | cons c above ih =>
      rw [List.any_cons, Bool.or_eq_false_iff] at habove
      rw [List.cons_append, caught_cons_of_not habove.1]
      exact ih habove.2

theorem caught_append (habove : above.any Call.catches = true) :
    caught (above ++ calls) = caught above ++ calls := by
  induction above with
  | nil => cases habove
  | cons c above ih =>
      cases c with
      | handlers => rfl
      | observers => rfl
      | _ => exact ih (by simpa [Call.catches] using habove)

theorem caught_sessionless (h : ∀ c ∈ calls, c.role ≠ .session) :
    ∀ c ∈ caught calls, c.role ≠ .session := by
  induction calls with
  | nil => exact h
  | cons c calls ih =>
      rw [List.forall_mem_cons] at h
      cases c with
      | handlers => exact List.forall_mem_cons.mpr ⟨by simp [Call.role], h.2⟩
      | observers => exact List.forall_mem_cons.mpr ⟨by simp [Call.role], h.2⟩
      | _ => exact ih h.2

end Caught

namespace World

variable (w : World) {c : Call}

theorem unwind_calls (calls : List Call) : (w.unwind calls).2 = caught calls := by
  induction calls generalizing w with
  | nil => rfl
  | cons c calls ih =>
      cases c with
      | handlers => rfl
      | observers => rfl
      | session epoch => exact ih (w.removeTask epoch)
      | _ => exact ih w

theorem step_breaks (hc : c.breaks = true) (below : List Call) (value : Value) :
    (w.step ⟨c :: below, value⟩).2 = ⟨caught below, .none⟩ := by
  cases c with
  | handled e ending =>
      cases ending with
      | broken => exact congrArg (Thread.mk · .none) (w.unwind_calls below)
      | _ => cases hc
  | observed breaks =>
      cases breaks with
      | true => exact congrArg (Thread.mk · .none) (w.unwind_calls below)
      | false => cases hc
  | _ => cases hc

/-- An error that is reported concerns a delivery right below, and nothing else. -/
theorem failHandler_append (event : Event) (message : String) (above : List Call)
    {below : List Call} (hbelow : ∀ e rest o, below.head? ≠ some (.handlers e rest o)) :
    (w.failHandler event message (above ++ below)).2 =
      (w.failHandler event message above).2 ++ below := by
  cases above with
  | nil =>
      simp only [List.nil_append, failHandler]
      split
      next => exact absurd rfl (hbelow _ _ _)
      next => rfl
  | cons c above => cases c <;> rfl

/-- What a call on top does, it does on top of what lies below, unless it breaks off or reports an
error. -/
theorem step_above_of_not_failed (hbreaks : c.breaks = false)
    (hfailed : ∀ e message, c ≠ .handled e (.failed message)) (above below : List Call)
    (value : Value) :
    (w.step ⟨c :: above ++ below, value⟩).2.calls =
      (w.step ⟨c :: above, value⟩).2.calls ++ below := by
  cases c with
  | actions list =>
      cases list with
      | nil => rfl
      | cons a rest => simp [step]
  | yielded a => rfl
  | deliver e =>
      simp only [step, List.cons_append]
      split <;> rfl
  | handlers e list o =>
      cases list with
      | nil => rfl
      | cons h rest => simp [step]
  | handled e ending =>
      cases ending with
      | ok => rfl
      | failed message => exact absurd rfl (hfailed e message)
      | broken => cases hbreaks
  | flush =>
      simp only [step, List.cons_append]
      split <;> rfl
  | drain =>
      simp only [step, List.cons_append]
      split <;> rfl
  | observers next list => cases list <;> rfl
  | observer o next => simp [step]
  | observed breaks =>
      cases breaks with
      | false => rfl
      | true => cases hbreaks
  | session epoch =>
      simp only [step, List.cons_append, runSession]
      split
      · rfl
      · split <;> simp

/-- An error is reported to what lies right below, if that is a delivery. -/
theorem step_above (hbreaks : c.breaks = false) (above below : List Call)
    (hbelow : ∀ e rest o, below.head? ≠ some (.handlers e rest o)) (value : Value) :
    (w.step ⟨c :: above ++ below, value⟩).2.calls =
      (w.step ⟨c :: above, value⟩).2.calls ++ below := by
  by_cases hfailed : ∃ e message, c = .handled e (.failed message)
  · obtain ⟨e, message, rfl⟩ := hfailed
    exact w.failHandler_append e message above hbelow
  · exact w.step_above_of_not_failed hbreaks (fun e message heq => hfailed ⟨e, message, heq⟩) above
      below value

/-! ## Callbacks and sessions -/

section Sessionless

variable {calls : List Call} {value : Value}

/-- An action leads to one call at most. -/
theorem perform_leads (a : Action) :
    (w.perform a).2.2 = [] ∨ (w.perform a).2.2 = [.flush] ∨
      (∃ e, (w.perform a).2.2 = [.deliver e]) ∨
      ∃ o next, (w.perform a).2.2 = [.observer o next] := by
  cases a with
  | subscribe name h =>
      simp only [perform]
      split <;> simp
  | unsubscribe name h =>
      simp only [perform]
      split <;> simp
  | count name =>
      simp only [perform]
      split <;> simp
  | dispatch raw =>
      simp only [perform]
      split <;> simp
  | connect =>
      simp only [perform, connect]
      split <;> simp
  | disconnect => simp [perform, disconnect]
  | observe o => simp [perform]
  | unobserve o => simp [perform]
  | notify o state => cases state <;> simp [perform]
  | send item link => simp [perform]

theorem perform_sessionless (a : Action) : ∀ c ∈ (w.perform a).2.2, c.role ≠ .session := by
  rcases w.perform_leads a with hmore | hmore | ⟨e, hmore⟩ | ⟨o, next, hmore⟩ <;>
    simp [hmore, Call.role]

theorem callHandler_sessionless (e : Event) (h : HandlerId) :
    ∀ c ∈ (w.callHandler e h).2, c.role ≠ .session := by
  cases h <;> simp [callHandler, Call.role]

theorem callObserver_sessionless (next : ConnectionState) (o : ObserverId) :
    ∀ c ∈ (w.callObserver next o).2, c.role ≠ .session := by
  cases o with
  | notifier =>
      simp only [callObserver]
      split <;> simp
  | scripted name =>
      simp only [callObserver]
      split <;> simp [Call.role]

/-- No step of a callback leads to a session. -/
theorem step_sessionless (h : ∀ c ∈ calls, c.role ≠ .session) :
    ∀ c ∈ (w.step ⟨calls, value⟩).2.calls, c.role ≠ .session := by
  cases calls with
  | nil => exact h
  | cons c calls =>
      rw [List.forall_mem_cons] at h
      obtain ⟨hc, hcalls⟩ := h
      have happend : ∀ more : List Call, (∀ c ∈ more, c.role ≠ .session) →
          ∀ c ∈ more ++ calls, c.role ≠ .session :=
        fun more hmore => List.forall_mem_append.mpr ⟨hmore, hcalls⟩
      cases c with
      | actions list =>
          cases list with
          | nil => exact hcalls
          | cons a rest =>
              have hperform := w.perform_sessionless a
              simp only [step, List.forall_mem_append, List.forall_mem_cons]
              exact ⟨hperform, by simp [Call.role], by simp [Call.role], hcalls⟩
      | yielded a => exact hcalls
      | deliver e =>
          simp only [step]
          split
          · exact hcalls
          · exact happend [_] (by simp [Call.role])
      | handlers e list o =>
          cases list with
          | nil => exact hcalls
          | cons h rest =>
              simp only [step, List.forall_mem_append, List.forall_mem_cons]
              exact ⟨w.callHandler_sessionless e h, by simp [Call.role], hcalls⟩
      | handled e ending =>
          cases ending with
          | ok => exact hcalls
          | failed message =>
              simp only [step, failHandler]
              split
              · rw [List.forall_mem_cons] at hcalls ⊢
                exact ⟨by simp [Call.role], hcalls.2⟩
              · exact hcalls
          | broken =>
              rw [w.step_breaks rfl]
              exact caught_sessionless hcalls
      | flush =>
          simp only [step]
          split
          · exact hcalls
          · exact happend [_] (by simp [Call.role])
      | drain =>
          simp only [step]
          split
          · exact hcalls
          · exact happend [_, _] (by simp [Call.role])
      | observers next list =>
          cases list with
          | nil => exact hcalls
          | cons o rest => exact happend [_, _] (by simp [Call.role])
      | observer o next => exact happend _ (w.callObserver_sessionless next o)
      | observed breaks =>
          cases breaks with
          | false => exact hcalls
          | true =>
              rw [w.step_breaks rfl]
              exact caught_sessionless hcalls
      | session epoch => exact absurd rfl hc

end Sessionless

end World

end EventFeed.Simulation
