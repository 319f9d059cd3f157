import EventFeed.Proofs.Interleaving.Frames
import Mathlib.Data.List.Induction

/-! # Deliveries

A delivery lies on the stack of its thread below the handler that it has called. Whatever that
handler does, and whatever other threads do in the meantime, the delivery is not touched until the
handler ends: by itself, by reporting an error, or by breaking off. Then the delivery notes how it
has ended, and calls the next one.
-/

namespace EventFeed.Simulation

/-! ## What is seen of a delivery -/

namespace Thread

/-- The handler that the delivery at a depth of a thread calls when the thread goes on. -/
def invokes (depth : Nat) (t : Thread) : List HandlerId :=
  match t.calls with
  | .handlers _ (h :: _) _ :: below => if below.length = depth then [h] else []
  | _ => []

/-- How the handler that is called by the delivery at a depth of a thread ends, if it ends when the
thread goes on. The program's own handler does so at once. -/
def ends (depth : Nat) (t : Thread) : List Ending :=
  match t.calls with
  | [] => []
  | c :: below =>
    if c.breaks then if (caught below).length = depth + 1 then [.broken] else []
    else
      match c with
      | .handlers _ (.eventLogger :: _) _ => if below.length = depth then [.ok] else []
      | .handled _ ending => if below.length = depth + 1 then [ending] else []
      | _ => []

end Thread

/-- What came of handlers that have been called, as far as they have ended. -/
def tally (invoked : List HandlerId) (ended : List Ending) : DispatchOutcome where
  invoked := invoked.length
  failed := ended.countP (· ≠ .ok)

/-- The calls of a thread while an event is delivered to the handlers of a list, above the calls
that lay there before. -/
inductive Delivering (e : Event) (list : List HandlerId) (calls : List Call)
    (invoked : List HandlerId) (ended : List Ending) : List Call → Prop
  /-- The delivery is to go on. -/
  | between {rest : List HandlerId} : invoked ++ rest = list → ended.length = invoked.length →
      Delivering e list calls invoked ended (.handlers e rest (tally invoked ended) :: calls)
  /-- The handler that has been called last is at work. -/
  | within {above : List Call} {rest : List HandlerId} {ending : Ending} :
      invoked ++ rest = list → ended.length + 1 = invoked.length →
      (∀ c ∈ above, c.role ≠ .session) →
      Delivering e list calls invoked ended
        (above ++ .handled e ending :: .handlers e rest (tally invoked ended) :: calls)

/-! ## Deliveries under way -/

section Tally

variable {invoked : List HandlerId} {ended : List Ending} {h : HandlerId}

theorem tally_invoke :
    { tally invoked ended with invoked := (tally invoked ended).invoked + 1 } =
      tally (invoked ++ [h]) ended := by
  simp [tally]

theorem tally_ok : tally invoked (ended ++ [.ok]) = tally invoked ended := by
  simp [tally]

theorem tally_fail {ending : Ending} (hending : ending ≠ .ok) :
    { tally invoked ended with failed := (tally invoked ended).failed + 1 } =
      tally invoked (ended ++ [ending]) := by
  simp [tally, hending]

end Tally

namespace Delivering

variable {e : Event} {list : List HandlerId} {calls : List Call} {invoked : List HandlerId}
  {ended : List Ending} {t : Thread}

theorem length_lt (h : Delivering e list calls invoked ended t.calls) :
    calls.length < t.calls.length := by
  generalize t.calls = stack at h
  cases h with
  | between => simp
  | within =>
      simp only [List.length_append, List.length_cons]
      omega

theorem exists_rest (h : Delivering e list calls invoked ended t.calls) :
    ∃ rest, invoked ++ rest = list := by
  generalize t.calls = stack at h
  cases h with
  | between hlist => exact ⟨_, hlist⟩
  | within hlist => exact ⟨_, hlist⟩

/-- The delivery calls the next handler, or has called them all. -/
theorem step_between {rest : List HandlerId} (w : World) (value : Value)
    (hlist : invoked ++ rest = list) (hended : ended.length = invoked.length) :
    let t : Thread := ⟨.handlers e rest (tally invoked ended) :: calls, value⟩
    ((w.step t).2 = ⟨calls, .outcome (tally list ended)⟩ ∧ invoked = list ∧
        t.invokes calls.length = [] ∧ t.ends calls.length = []) ∨
      Delivering e list calls (invoked ++ t.invokes calls.length)
        (ended ++ t.ends calls.length) (w.step t).2.calls := by
  intro t
  cases rest with
  | nil =>
      rw [List.append_nil] at hlist
      subst hlist
      exact Or.inl ⟨rfl, rfl, rfl, rfl⟩
  | cons h rest =>
      have hinvokes : t.invokes calls.length = [h] := if_pos rfl
      have hnext : (invoked ++ [h]) ++ rest = list := by simpa using hlist
      refine Or.inr ?_
      rw [hinvokes]
      cases h with
      | eventLogger =>
          have hends : t.ends calls.length = [.ok] := if_pos rfl
          have hcalls : (w.step t).2.calls =
              .handlers e rest (tally (invoked ++ [.eventLogger]) (ended ++ [.ok])) :: calls := by
            rw [tally_ok, ← tally_invoke]
            rfl
          rw [hends, hcalls]
          exact .between hnext (by simp [hended])
      | scripted name =>
          have hends : t.ends calls.length = [] := rfl
          rw [hends, List.append_nil]
          have hwithin : ∀ actions ending,
              Delivering e list calls (invoked ++ [.scripted name]) ended
                ([.actions actions] ++ .handled e ending ::
                  .handlers e rest (tally (invoked ++ [.scripted name]) ended) :: calls) :=
            fun actions ending => .within hnext (by simp [hended]) (by simp [Call.role])
          rw [← tally_invoke] at hwithin
          exact hwithin _ _

/-- A handler ends, and the delivery notes how. -/
theorem step_handled {rest : List HandlerId} {ending : Ending} (w : World) (value : Value)
    (hlist : invoked ++ rest = list) (hended : ended.length + 1 = invoked.length) :
    let t : Thread :=
      ⟨.handled e ending :: .handlers e rest (tally invoked ended) :: calls, value⟩
    Delivering e list calls (invoked ++ t.invokes calls.length) (ended ++ t.ends calls.length)
      (w.step t).2.calls := by
  intro t
  have hinvokes : t.invokes calls.length = [] := rfl
  have hends : t.ends calls.length = [ending] := by
    cases ending <;> exact if_pos rfl
  have hcalls : (w.step t).2.calls =
      .handlers e rest (tally invoked (ended ++ [ending])) :: calls := by
    cases ending with
    | ok => rw [tally_ok]; rfl
    | failed message => rw [← tally_fail (by simp)]; rfl
    | broken => rw [← tally_fail (by simp)]; rfl
  rw [hinvokes, hends, hcalls, List.append_nil]
  exact .between hlist (by simp [hended])

/-- A handler is at work. It may break off before its end. -/
theorem step_above_handled {c : Call} {above : List Call} {rest : List HandlerId} {ending : Ending}
    (w : World) (value : Value) (hlist : invoked ++ rest = list)
    (hended : ended.length + 1 = invoked.length) (habove : ∀ d ∈ c :: above, d.role ≠ .session) :
    let t : Thread := ⟨c :: above ++ .handled e ending ::
      .handlers e rest (tally invoked ended) :: calls, value⟩
    Delivering e list calls (invoked ++ t.invokes calls.length) (ended ++ t.ends calls.length)
      (w.step t).2.calls := by
  intro t
  have hinvokes : t.invokes calls.length = [] := by
    simp only [t, Thread.invokes, List.cons_append]
    split
    next heq =>
      obtain ⟨_, rfl⟩ := List.cons.inj heq
      rw [if_neg]
      simp only [List.length_append, List.length_cons]
      omega
    next => rfl
  rw [hinvokes, List.append_nil]
  cases hbreaks : c.breaks with
  | true =>
      have hcalls := congrArg Thread.calls (w.step_breaks hbreaks
        (above ++ .handled e ending :: .handlers e rest (tally invoked ended) :: calls) value)
      cases hcatches : above.any Call.catches with
      | true =>
          -- the failure stays inside the handler
          rw [caught_append hcatches] at hcalls
          have hends : t.ends calls.length = [] := by
            simp only [t, Thread.ends, List.cons_append, hbreaks, if_true]
            rw [caught_append hcatches, if_neg]
            simp only [List.length_append, List.length_cons]
            omega
          rw [hends, List.append_nil]
          exact hcalls ▸ .within hlist hended
            (caught_sessionless (List.forall_mem_cons.mp habove).2)
      | false =>
          rw [caught_append_of_not hcatches] at hcalls
          have hends : t.ends calls.length = [.broken] := by
            simp only [t, Thread.ends, List.cons_append, hbreaks, if_true]
            rw [caught_append_of_not hcatches]
            exact if_pos rfl
          rw [hends]
          refine hcalls ▸ ?_
          change Delivering e list calls invoked (ended ++ [.broken]) (.handlers e rest _ :: calls)
          have hfail : Ending.broken ≠ .ok := by simp
          rw [tally_fail hfail]
          exact .between hlist (by simp [hended])
  | false =>
      have hends : t.ends calls.length = [] := by
        simp only [t, Thread.ends, List.cons_append, hbreaks, Bool.false_eq_true, if_false]
        have hlength : ∀ k ≤ calls.length + 1,
            (above ++ Call.handled e ending ::
              .handlers e rest (tally invoked ended) :: calls).length ≠ k := by
          intro k hk
          simp only [List.length_append, List.length_cons]
          omega
        split
        · exact if_neg (hlength _ (Nat.le_succ _))
        · exact if_neg (hlength _ (Nat.le_refl _))
        · rfl
      -- the handler's own end lies right above the delivery, so that no error is reported to it
      have hcalls := w.step_above hbreaks above
        (.handled e ending :: .handlers e rest (tally invoked ended) :: calls) (by simp) value
      rw [hends, List.append_nil]
      exact hcalls ▸ .within hlist hended (w.step_sessionless habove)

/-- A step of a thread in which a delivery is under way ends the delivery, with the tally of all its
handlers, or is part of it. -/
theorem step (h : Delivering e list calls invoked ended t.calls) (w : World) :
    ((w.step t).2 = ⟨calls, .outcome (tally list ended)⟩ ∧ invoked = list ∧
        ended.length = list.length ∧ t.invokes calls.length = [] ∧ t.ends calls.length = []) ∨
      Delivering e list calls (invoked ++ t.invokes calls.length) (ended ++ t.ends calls.length)
        (w.step t).2.calls := by
  obtain ⟨stack, value⟩ := t
  cases h with
  | between hlist hended =>
      rcases step_between w value hlist hended with ⟨hreturn, rfl, hsilent⟩ | hnext
      · exact Or.inl ⟨hreturn, rfl, hended, hsilent⟩
      · exact Or.inr hnext
  | @within above _ _ hlist hended habove =>
      cases above with
      | nil => exact Or.inr (step_handled w value hlist hended)
      | cons c above => exact Or.inr (step_above_handled w value hlist hended habove)

/-- A callback that makes up its mind does not touch the deliveries below it. -/
theorem decide (h : Delivering e list calls invoked ended t.calls) (actions : List Action)
    (ending : Ending) :
    Delivering e list calls invoked ended (t.decide actions ending).calls := by
  obtain ⟨stack, value⟩ := t
  cases h with
  | between hlist hended => exact .between hlist hended
  | @within above rest x hlist hended habove =>
      have hsame : Delivering e list calls invoked ended
          (above ++ .handled e x :: .handlers e rest (tally invoked ended) :: calls) :=
        .within hlist hended habove
      simp only [Thread.decide]
      split
      next list' e' x' stack' heq =>
        -- the handler itself, or one that is called further up
        rcases above with _ | ⟨c, _ | ⟨d, above⟩⟩ <;>
          simp only [List.append_eq, List.nil_append, List.cons_append, List.cons.injEq,
            reduceCtorEq, false_and] at heq
        · obtain ⟨rfl, hhandled, rfl⟩ := heq
          cases hhandled
          exact @within e list calls invoked ended [.actions actions] rest ending hlist hended
            (by simp [Call.role])
        · obtain ⟨rfl, rfl, rfl⟩ := heq
          refine @within e list calls invoked ended
            (.actions actions :: .handled e' ending :: above) rest x hlist hended ?_
          simpa [Call.role] using habove
      next list' breaks stack' heq =>
        rcases above with _ | ⟨c, _ | ⟨d, above⟩⟩ <;>
          simp only [List.append_eq, List.nil_append, List.cons_append, List.cons.injEq,
            reduceCtorEq, false_and, and_false] at heq
        · obtain ⟨rfl, rfl, rfl⟩ := heq
          refine @within e list calls invoked ended
            (.actions actions :: .observed (ending == .broken) :: above) rest x hlist hended ?_
          simpa [Call.role] using habove
      next => exact hsame

end Delivering

end EventFeed.Simulation
