import EventFeed.Proofs.Reconnection.Course
import EventFeed.Proofs.Reconnection.Delays

/-! # Setbacks

A session counts its retries, and hands the count to the lifecycle together with some of the changes
that it makes. While it is in charge, both counts are the number of setbacks that it has had since
it started or was last connected, as far as retries are allowed.
-/

namespace EventFeed.Simulation

/-- How often a connection that was led through these states had to reconnect after it was last
connected. -/
def setbacks (states : List ConnectionState) : Nat :=
  (states.reverse.takeWhile (· ≠ .connected)).count .reconnecting

/-- The state to which a connection is led, if it changes. -/
def ledTo (previous next : ConnectionState) : List ConnectionState :=
  (previous.changeTo next).map Transition.next

section Setbacks

variable {states : List ConnectionState} {s : ConnectionState}

@[simp] theorem setbacks_nil : setbacks [] = 0 := rfl

@[simp] theorem setbacks_connected : setbacks (states ++ [.connected]) = 0 := by
  simp [setbacks]

@[simp] theorem setbacks_reconnecting :
    setbacks (states ++ [.reconnecting]) = setbacks states + 1 := by
  simp [setbacks]

theorem setbacks_other (hconnected : s ≠ .connected) (hreconnecting : s ≠ .reconnecting) :
    setbacks (states ++ [s]) = setbacks states := by
  simp [setbacks, hconnected, hreconnecting]

@[simp] theorem ledTo_self : ledTo s s = [] := by simp [ledTo]

theorem ledTo_of_ne {next : ConnectionState} (h : s ≠ next) : ledTo s next = [next] := by
  simp [ledTo, ConnectionState.changeTo, h]

end Setbacks

/-! ## The two counts -/

/-- A count that agrees with the states through which a session has led the connection. -/
def Tallies (budget : UInt32) (states : List ConnectionState) (count : UInt32) : Prop :=
  count.toNat = min (setbacks states) budget.toNat

/-- The session has as many retries as are allowed, has counted its setbacks, and gives up only when
the retries are used up. -/
structure Session.Tallied (budget : UInt32) (states : List ConnectionState) (s : Session)
    (a : Activity) : Prop where
  allowed : s.backoff.maxAttempts = budget
  attempts : Tallies budget states s.backoff.attempt
  spent : a = .retrying none → budget.toNat < setbacks states

/-- The lifecycle has the count that belongs to its state. -/
structure Lifecycle.Tallied (budget : UInt32) (states : List ConnectionState)
    (l : Lifecycle ObserverId) : Prop where
  attempts : Tallies budget states l.attempts
  fresh : l.state ∈ [.idle, .connected, .disconnected] → setbacks states = 0
  spent : l.state = .failed → budget.toNat < setbacks states

/-! ## A step of the session in charge -/

section Charge

variable {w : World} {s s' : Session} {a b : Activity} {states : List ConnectionState}
  {budget : UInt32} {opens : List OpenScript} {state : ConnectionState}

theorem World.Leads.next?_eq_none (h : w.Leads a b) : a.next? = none := by
  have hserving : ∀ a : Activity, a.isServing = true → a.next? = none := by
    intro a ha
    cases a <;> first | rfl | cases ha
  cases h with
  | serve ha => exact hserving _ ha
  | lose ha => exact hserving _ ha
  | @retreat a ha =>
      rcases ha with ha | ⟨e, rfl⟩
      · cases a <;> first | rfl | cases ha
      · rfl
  | _ => rfl

theorem World.Leads.ne_retrying (h : w.Leads a b) : b ≠ .retrying none := by
  cases h with
  | serve _ hb => rintro rfl; cases hb
  | lose _ hb => rintro rfl; cases hb
  | _ => simp

/-- A session that is not about to change the state leaves the lifecycle alone. -/
theorem Activity.Acts.eq_of_next? {epoch : UInt64} {l l' : Lifecycle ObserverId}
    {progress : Progress} (h : a.Acts epoch l l' progress) (hnext : a.next? = none) : l' = l := by
  cases h with
  | change hchange =>
      rw [hnext] at hchange
      cases hchange
  | _ => rfl

/-- What a session in charge is about to do is a change of state. -/
theorem World.InCharge.ledTo_next (h : w.InCharge s a) {next : ConnectionState}
    (hnext : a.next? = some next) : ledTo w.lifecycle.state next = [next] := by
  refine ledTo_of_ne fun heq => ?_
  have hadmits := h.state
  rw [heq] at hadmits
  cases a with
  | retrying delay => cases delay <;> simp_all [Activity.next?, Activity.admits]
  | retreating =>
      obtain rfl := Option.some.inj hnext
      exact absurd hadmits (by decide)
  | _ => simp_all [Activity.next?, Activity.admits]

/-- A setback is counted as long as retries are left. -/
theorem Session.setback_tallied (hallowed : s.backoff.maxAttempts = budget)
    (h : Tallies budget states s.backoff.attempt) :
    Session.Tallied budget (states ++ [.reconnecting]) s.setback.2 (.retrying s.setback.1) := by
  have hcount : s.backoff.attempt.toNat = min (setbacks states) budget.toNat := h
  subst hallowed
  rcases UInt32.lt_or_le s.backoff.attempt s.backoff.maxAttempts with hlt | hle
  · have hnext := Backoff.toNat_attempt_succ hlt
    rw [Session.setback_of_lt hlt]
    rw [UInt32.lt_iff_toNat_lt] at hlt
    refine ⟨rfl, ?_, fun hnone => by cases hnone⟩
    rw [Tallies, setbacks_reconnecting, hnext]
    omega
  · rw [Session.setback_of_le hle]
    rw [UInt32.le_iff_toNat_le] at hle
    refine ⟨rfl, ?_, fun _ => ?_⟩
    · rw [Tallies, setbacks_reconnecting]
      change s.backoff.attempt.toNat = _
      omega
    · rw [setbacks_reconnecting]
      omega

/-- The session in charge goes on with its count. -/
theorem Session.Tallied.course (h : Session.Tallied budget states s a) (hcharge : w.InCharge s a)
    (hcourse : w.Course s a s' b opens state) :
    Session.Tallied budget (states ++ ledTo w.lifecycle.state state) s' b := by
  cases hcourse with
  | quiet hleads =>
      rw [ledTo_self, List.append_nil]
      exact ⟨h.allowed, h.attempts, fun hb => absurd hb hleads.ne_retrying⟩
  | call =>
      rw [ledTo_self, List.append_nil]
      exact ⟨h.allowed, h.attempts, fun hb => by cases hb⟩
  | connect =>
      rw [hcharge.ledTo_next rfl]
      refine ⟨h.allowed, ?_, fun hb => by cases hb⟩
      rw [Tallies, setbacks_connected, Nat.zero_min]
      rfl
  | retreat =>
      rw [hcharge.ledTo_next rfl]
      exact Session.setback_tallied h.allowed h.attempts
  | fail =>
      rw [hcharge.ledTo_next rfl]
      refine ⟨h.allowed, ?_, fun hb => by cases hb⟩
      rw [Tallies, setbacks_other (by decide) (by decide)]
      exact h.attempts
  | resume =>
      rw [hcharge.ledTo_next rfl]
      refine ⟨h.allowed, ?_, fun hb => by cases hb⟩
      rw [Tallies, setbacks_other (by decide) (by decide)]
      exact h.attempts

/-- The lifecycle takes the count over from the session in charge with the changes to connected and
to reconnecting, and with no others. -/
theorem World.stepSession_attempts (hcharge : w.InCharge s a) (value : Value) :
    (w.stepSession s a value).1.lifecycle.attempts =
      if a.next? = some .connected ∨ a.next? = some .reconnecting then
        (w.stepSession s a value).2.1.backoff.attempt
      else w.lifecycle.attempts := by
  have hacts := (w.stepSession_steps s a value).acts
  have hcomes := w.stepSession_comes s a value
  generalize w.stepSession s a value = r at hacts hcomes ⊢
  cases hcomes with
  | connect hl | retreat hl =>
      obtain ⟨_, rfl⟩ := Lifecycle.advance?_eq_some.mp hl
      simp [Activity.next?, Session.opened, Backoff.reset]
  | giveUp hl | resume hl =>
      obtain ⟨_, rfl⟩ := Lifecycle.advance?_eq_some.mp hl
      simp [Activity.next?]
  | tooLateToConnect hlate | tooLateToRetreat hlate | tooLateToGiveUp hlate
  | tooLateToResume hlate => exact absurd hcharge.epoch hlate
  | _ =>
      rw [hacts.eq_of_next? rfl]
      simp [Activity.next?]

theorem Lifecycle.Tallied.course {l' : Lifecycle ObserverId}
    (h : Lifecycle.Tallied budget states w.lifecycle) (hsession : Session.Tallied budget states s a)
    (hcharge : w.InCharge s a) (hcourse : w.Course s a s' b opens state) (hstate : l'.state = state)
    (hattempts : l'.attempts =
      if a.next? = some .connected ∨ a.next? = some .reconnecting then s'.backoff.attempt
      else w.lifecycle.attempts) :
    Lifecycle.Tallied budget (states ++ ledTo w.lifecycle.state state) l' := by
  -- where the count is taken over, it is the session's, which has been shown to agree
  have hnext := (hsession.course hcharge hcourse).attempts
  cases hcourse with
  | quiet hleads =>
      rw [hleads.next?_eq_none] at hattempts
      rw [ledTo_self, List.append_nil]
      exact ⟨hattempts ▸ h.attempts, hstate ▸ h.fresh, hstate ▸ h.spent⟩
  | call =>
      rw [ledTo_self, List.append_nil]
      exact ⟨hattempts ▸ h.attempts, hstate ▸ h.fresh, hstate ▸ h.spent⟩
  | connect =>
      rw [show (Activity.accepted _).next? = some .connected from rfl] at hattempts
      refine ⟨?_, fun _ => ?_, fun hfailed => ?_⟩
      · rw [hattempts, if_pos (Or.inl rfl)]
        exact hnext
      · rw [hcharge.ledTo_next rfl, setbacks_connected]
      · rw [hstate] at hfailed
        cases hfailed
  | retreat =>
      rw [show Activity.retreating.next? = some .reconnecting from rfl] at hattempts
      refine ⟨?_, fun hfresh => ?_, fun hfailed => ?_⟩
      · rw [hattempts, if_pos (Or.inr rfl)]
        exact hnext
      · rw [hstate] at hfresh
        simp at hfresh
      · rw [hstate] at hfailed
        cases hfailed
  | fail =>
      rw [show (Activity.retrying none).next? = some .failed from rfl,
        if_neg (by decide)] at hattempts
      rw [hcharge.ledTo_next rfl]
      refine ⟨?_, fun hfresh => ?_, fun _ => ?_⟩
      · rw [hattempts, Tallies, setbacks_other (by decide) (by decide)]
        exact h.attempts
      · rw [hstate] at hfresh
        simp at hfresh
      · rw [setbacks_other (by decide) (by decide)]
        exact hsession.spent rfl
  | resume =>
      rw [show Activity.resuming.next? = some .connecting from rfl,
        if_neg (by decide)] at hattempts
      rw [hcharge.ledTo_next rfl]
      refine ⟨?_, fun hfresh => ?_, fun hfailed => ?_⟩
      · rw [hattempts, Tallies, setbacks_other (by decide) (by decide)]
        exact h.attempts
      · rw [hstate] at hfresh
        simp at hfresh
      · rw [hstate] at hfailed
        cases hfailed

end Charge

end EventFeed.Simulation
