import EventFeed.Proofs.Interleaving.Shelter
import EventFeed.Proofs.Reconnection.Course
import EventFeed.Proofs.Reconnection.Delays
import EventFeed.Proofs.Reconnection.Timeline

/-! # What lies ahead of a session

At every activity the rest of the timeline is determined: by the time, by the failures so far, and
by how the attempts still to come turn out.
-/

namespace EventFeed.Simulation

/-! ## Delays -/

/-- A timer for this duration fires exactly when it is over. -/
def Whole (d : Duration) : Prop := d.nanos = millis d.ceilMillis

theorem whole_of_millis {d : Duration} {n : Nat} (h : d.nanos = millis n) : Whole d := by
  simp only [Whole, Duration.ceilMillis, h, millis]
  omega

theorem mul?_millis {d product : Duration} {n k : Nat} (h : d.nanos = millis n)
    (hproduct : d.mul? k = some product) : product.nanos = millis (n * k) := by
  unfold Duration.mul? at hproduct
  split at hproduct
  next hlt =>
    rw [← Option.some.inj hproduct, millis, Nat.mul_right_comm]
    exact congrArg (· * k) h
  next => cases hproduct

theorem min_whole {d d' : Duration} (h : Whole d) (h' : Whole d') : Whole (d.min d') := by
  unfold Duration.min
  split
  · exact h
  · exact h'

/-- The delays of a configuration are whole milliseconds. -/
theorem delayFor_whole (c : Config) (failures : UInt32) :
    Whole ((Backoff.ofConfig c).delayFor failures) := by
  have hmax : Whole (Backoff.ofConfig c).max := @whole_of_millis _ c.maxReconnectDelayMs.toNat rfl
  have hbase : (Backoff.ofConfig c).base.nanos = millis c.baseReconnectDelayMs.toNat := rfl
  rw [Backoff.delayFor]
  cases hd : (Backoff.ofConfig c).base.mul? (Backoff.factor failures) with
  | none => exact hmax
  | some d => exact min_whole (whole_of_millis (mul?_millis hbase hd)) hmax

/-! ## How attempts turn out -/

/-- An attempt is answered at once, or not at all. -/
structure Outcome.Describes (o : Outcome) (script : OpenScript) : Prop where
  answer : match o with
    | .refused => ∃ message, script.answer = .refuse message
    | .hung => script.answer = .hang
    | .lost _ => script.answer = .accept
  delay : script.delay = 0
  returns : script.Returns

def attemptCount (seen : List TimedMark) : Nat := seen.countP (·.2 = .attempt)

/-- How the latest attempt turns out. -/
def latest? (outcomes : List Outcome) (seen : List TimedMark) : Option Outcome :=
  outcomes[attemptCount seen - 1]?

/-- When the connection that is open is to be lost. -/
def lossDue? (outcomes : List Outcome) (seen : List TimedMark) : Option Nat :=
  match seen.getLast?, latest? outcomes seen with
  | some (time, .state .connected), some (.lost after) => some (time + millis after)
  | _, _ => none

section

variable {outcomes : List Outcome} {seen : List TimedMark}

@[simp] theorem attemptCount_append (more : List TimedMark) :
    attemptCount (seen ++ more) = attemptCount seen + attemptCount more := List.countP_append

@[simp] theorem attemptCount_attempt (time : Nat) : attemptCount [(time, .attempt)] = 1 := rfl

@[simp] theorem attemptCount_state (time : Nat) (s : ConnectionState) :
    attemptCount [(time, .state s)] = 0 := rfl

/-- The next attempt turns out as the first of those that are left. -/
theorem latest?_attempt (time : Nat) :
    latest? outcomes (seen ++ [(time, .attempt)]) =
      (outcomes.drop (attemptCount seen)).head? := by
  simp [latest?, List.head?_drop]

theorem latest?_state (time : Nat) (s : ConnectionState) :
    latest? outcomes (seen ++ [(time, .state s)]) = latest? outcomes seen := by
  simp [latest?]

theorem lossDue?_connected {time after : Nat} (h : latest? outcomes seen = some (.lost after)) :
    lossDue? outcomes (seen ++ [(time, .state .connected)]) = some (time + millis after) := by
  simp [lossDue?, latest?_state, h]

end

/-! ## The rest of the timeline -/

section

variable (c : Config) (outcomes : List Outcome) (seen : List TimedMark) (now : Nat)
  (rest : List Outcome)

/-- The answer to an attempt that was made at some time is awaited until a limit. -/
def Awaited (script : OpenScript) (limit : Nat) (failures : UInt32) (marks : List TimedMark) :
    Prop :=
  ∃ o start, latest? outcomes seen = some o ∧ o.Describes script ∧
    limit = start + c.connectTimeoutMs.toNat ∧ now ≤ limit ∧ (o ≠ .hung → start = now) ∧
    marks = Timeline.afterAttempt c (Timeline.attempts c rest) (millis start) failures o

/-- A connection is open until a time. -/
def Served (failures : UInt32) (marks : List TimedMark) : Prop :=
  failures = 0 ∧ ∃ due, lossDue? outcomes seen = some due ∧ millis now ≤ due ∧
    marks = Timeline.afterFailure c (Timeline.attempts c rest) due 0

/-- What lies ahead of a session at an activity, after so many failures. `outcomes` are those of the
whole script, and `rest` those of the attempts that are still to come. -/
def Ahead (a : Activity) (failures : UInt32) (marks : List TimedMark) : Prop :=
  match a with
  | .starting | .calling => marks = Timeline.attempts c rest (millis now) failures
  | .opening script ready limit =>
    (∀ time ∈ ready, time ≤ now) ∧ (ready = none → latest? outcomes seen = some .hung) ∧
      Awaited c outcomes seen now rest script limit failures marks
  | .answering script limit => Awaited c outcomes seen now rest script limit failures marks
  | .accepted _ =>
    ∃ after, latest? outcomes seen = some (.lost after) ∧
      marks = Timeline.afterAttempt c (Timeline.attempts c rest) (millis now) failures (.lost after)
  | .greeting _ | .serving .. | .delivered .. | .pinging .. =>
    Served c outcomes seen now rest failures marks
  | .losing .. | .refused _ | .retreating =>
    marks = Timeline.afterFailure c (Timeline.attempts c rest) (millis now) failures
  | .retrying none => marks = [(millis now, .state .failed)]
  | .retrying (some d) =>
    Whole d ∧ marks = (millis now + d.nanos, .state .connecting) ::
      Timeline.attempts c rest (millis now + d.nanos) failures
  | .waiting time =>
    now ≤ time ∧ marks = (millis time, .state .connecting) ::
      Timeline.attempts c rest (millis time) failures
  | .resuming =>
    marks = (millis now, .state .connecting) :: Timeline.attempts c rest (millis now) failures
  | .done => marks = []
  | .closing .. | .hangingUp .. => False

end

variable {c : Config} {outcomes : List Outcome} {seen : List TimedMark} {now : Nat}
  {rest : List Outcome} {w : World} {a b : Activity} {script : OpenScript} {limit : Nat}
  {failures : UInt32} {marks : List TimedMark}

theorem millis_add (m n : Nat) : millis (m + n) = millis m + millis n := Nat.add_mul ..

theorem ahead_iff_served (ha : a.isServing = true) :
    Ahead c outcomes seen now rest a failures marks ↔
      Served c outcomes seen now rest failures marks := by
  cases a <;> first | exact Iff.rfl | cases ha

/-- An attempt that has hung up to the limit has failed at the limit. -/
theorem Awaited.expired (h : Awaited c outcomes seen now rest script limit failures marks)
    (hhung : latest? outcomes seen = some .hung) (hlimit : limit ≤ now) :
    marks = Timeline.afterFailure c (Timeline.attempts c rest) (millis now) failures := by
  obtain ⟨o, start, hlatest, _, hstart, hnow, _, rfl⟩ := h
  obtain rfl := Option.some.inj (hhung.symm.trans hlatest)
  obtain rfl : now = start + c.connectTimeoutMs.toNat := by omega
  rw [millis_add]
  rfl

theorem Awaited.hung (h : Awaited c outcomes seen now rest script limit failures marks)
    (hanswer : script.answer = .hang) : latest? outcomes seen = some .hung := by
  obtain ⟨o, start, hlatest, hdescribes, _⟩ := h
  have hscript := hdescribes.answer
  cases o <;> simp_all

theorem Awaited.elapse {time : Nat}
    (h : Awaited c outcomes seen now rest script limit failures marks)
    (hhung : latest? outcomes seen = some .hung) (hlimit : time ≤ limit) :
    Awaited c outcomes seen time rest script limit failures marks := by
  obtain ⟨o, start, hlatest, hdescribes, hstart, _, _, hmarks⟩ := h
  obtain rfl := Option.some.inj (hhung.symm.trans hlatest)
  exact ⟨.hung, start, hlatest, hdescribes, hstart, hlimit, fun hne => absurd rfl hne, hmarks⟩

theorem Awaited.le (h : Awaited c outcomes seen now rest script limit failures marks) :
    ∀ mark ∈ marks, millis now ≤ mark.1 := by
  obtain ⟨o, start, _, _, rfl, hnow, hstart, rfl⟩ := h
  have hattempts := @Timeline.attempts_le c rest
  by_cases ho : o = .hung
  · subst ho
    have hlimit : millis now ≤ millis start + c.connectTimeout.nanos := by
      change millis now ≤ millis start + millis c.connectTimeoutMs.toNat
      rw [← millis_add]
      exact Nat.mul_le_mul_right _ hnow
    intro mark hmark
    exact Nat.le_trans hlimit (Timeline.afterFailure_le _ _ hattempts mark hmark)
  · obtain rfl := hstart ho
    exact Timeline.afterAttempt_le _ _ _ hattempts

namespace Ahead

/-- A step without a change of state leads to where the same lies ahead. -/
theorem quiet (h : Ahead c outcomes seen w.now rest a failures marks) (hleads : w.Leads a b)
    (hloss : a.isLosing = false → b.isLosing = true →
      lossDue? outcomes seen = some (millis w.now)) :
    Ahead c outcomes seen w.now rest b failures marks := by
  cases hleads with
  | start => exact h
  | answer => exact h.2.2
  | await => exact h
  | @expire script ready limit e hready hlimit =>
      -- an answer that was due has been taken, so there is none to come
      obtain ⟨hpast, hhung, hawaited⟩ := h
      cases ready with
      | none => exact hawaited.expired (hhung rfl) hlimit
      | some time => exact absurd (hready time rfl) (Nat.not_lt_of_le (hpast time rfl))
  | accept hanswer =>
      obtain ⟨o, start, hlatest, hdescribes, _, _, hstart, rfl⟩ := h
      have hscript := hdescribes.answer
      cases o with
      | refused => simp_all
      | hung => simp_all
      | lost after =>
          obtain rfl := hstart (by simp)
          exact ⟨after, hlatest, rfl⟩
  | refuse hanswer =>
      obtain ⟨o, start, hlatest, hdescribes, _, _, hstart, rfl⟩ := h
      have hscript := hdescribes.answer
      cases o with
      | refused =>
          obtain rfl := hstart (by simp)
          rfl
      | hung => simp_all
      | lost after => simp_all
  | hang hanswer =>
      exact ⟨(fun time htime => by cases htime), fun _ => Awaited.hung h hanswer, h⟩
  | give hanswer hlimit => exact Awaited.expired h (Awaited.hung h hanswer) hlimit
  | greet => exact h
  | serve ha hb => exact (ahead_iff_served hb).mpr ((ahead_iff_served ha).mp h)
  | lose ha hb =>
      obtain ⟨rfl, due, hdue, _, rfl⟩ := (ahead_iff_served ha).mp h
      have hnot : a.isLosing = false := by
        cases a <;> simp_all [Activity.isServing, Activity.isLosing]
      -- the loss falls on the moment for which it was planned
      obtain rfl := Option.some.inj (hdue.symm.trans (hloss hnot hb))
      cases b <;> first | rfl | cases hb
  | retreat ha =>
      rcases ha with ha | ⟨e, rfl⟩
      · cases a <;> first | exact h | cases ha
      · exact h
  | delay =>
      obtain ⟨hwhole, rfl⟩ := h
      refine ⟨Nat.le_add_right _ _, ?_⟩
      rw [millis_add, ← show _ = millis _ from hwhole]
  | wait => exact h
  | resume htime =>
      obtain ⟨hnow, rfl⟩ := h
      obtain rfl := Nat.le_antisymm hnow htime
      rfl

/-- An attempt is made, and its answer is awaited. -/
theorem call {o : Outcome} (h : Ahead c outcomes seen now (o :: rest) .calling failures marks)
    (ho : outcomes.drop (attemptCount seen) = o :: rest) (hscript : o.Describes script) :
    ∃ marks', marks = (millis now, .attempt) :: marks' ∧
      Ahead c outcomes (seen ++ [(millis now, .attempt)]) now rest
        (.opening script (some (now + script.delay)) (now + c.connectTimeoutMs.toNat)) failures
        marks' := by
  have hlatest : latest? outcomes (seen ++ [(millis now, .attempt)]) = some o := by
    rw [latest?_attempt, ho, List.head?_cons]
  refine ⟨_, h, fun time htime => ?_, fun hnone => (by cases hnone), ?_⟩
  · rw [← Option.some.inj htime, hscript.delay]
    exact Nat.le_refl now
  · exact ⟨o, now, hlatest, hscript, rfl, Nat.le_add_right _ _, fun _ => rfl, rfl⟩

/-- The connection is open, and is to be lost in due time. -/
theorem connect {n : Nat} (h : Ahead c outcomes seen now rest (.accepted n) failures marks) :
    ∃ marks', marks = (millis now, .state .connected) :: marks' ∧
      Ahead c outcomes (seen ++ [(millis now, .state .connected)]) now rest (.greeting n) 0
        marks' := by
  obtain ⟨after, hlatest, rfl⟩ := h
  exact ⟨_, rfl, rfl, _, lossDue?_connected hlatest, Nat.le_add_right _ _, rfl⟩

/-- After a failure too many the session is about to give up. -/
theorem exhaust (h : Ahead c outcomes seen now rest .retreating failures marks)
    (hmax : c.maxReconnectAttempts ≤ failures) :
    ∃ marks', marks = (millis now, .state .reconnecting) :: marks' ∧
      Ahead c outcomes (seen ++ [(millis now, .state .reconnecting)]) now rest (.retrying none)
        failures marks' := by
  obtain rfl : marks = _ := h
  rw [Timeline.afterFailure, if_pos hmax]
  exact ⟨_, rfl, rfl⟩

/-- After any other failure the next attempt comes when the delay is over. -/
theorem retry (h : Ahead c outcomes seen now rest .retreating failures marks)
    (hmax : ¬ c.maxReconnectAttempts ≤ failures) :
    ∃ marks', marks = (millis now, .state .reconnecting) :: marks' ∧
      Ahead c outcomes (seen ++ [(millis now, .state .reconnecting)]) now rest
        (.retrying (some ((Backoff.ofConfig c).delayFor failures))) (failures + 1) marks' := by
  obtain rfl : marks = _ := h
  rw [Timeline.afterFailure, if_neg hmax]
  exact ⟨_, rfl, delayFor_whole c failures, rfl⟩

theorem fail (h : Ahead c outcomes seen now rest (.retrying none) failures marks) :
    ∃ marks', marks = (millis now, .state .failed) :: marks' ∧
      Ahead c outcomes (seen ++ [(millis now, .state .failed)]) now rest .done failures marks' :=
  ⟨[], h, rfl⟩

theorem resume (h : Ahead c outcomes seen now rest .resuming failures marks) :
    ∃ marks', marks = (millis now, .state .connecting) :: marks' ∧
      Ahead c outcomes (seen ++ [(millis now, .state .connecting)]) now rest .calling failures
        marks' :=
  ⟨_, h, rfl⟩

/-- The same lies ahead of a session that waits for as long as nothing is due. -/
theorem elapse {alarms : List (AlarmKind × Nat)} {time : Nat}
    (h : Ahead c outcomes seen w.now rest a failures marks) (hawaits : w.Awaits alarms a)
    (htime : ∀ alarm ∈ alarms, time ≤ alarm.2)
    (hkept : ∀ due ∈ lossDue? outcomes seen, millis time ≤ due) :
    Ahead c outcomes seen time rest a failures marks := by
  cases hawaits with
  | @answer script ready limit hready hlimit =>
      -- a session that waits for an answer gets none before the limit
      obtain ⟨hpast, hhung, hawaited⟩ := h
      cases ready with
      | none =>
          exact ⟨(fun t ht => by cases ht), hhung, hawaited.elapse (hhung rfl) (htime _ hlimit)⟩
      | some t => exact absurd (hready t rfl) (Nat.not_lt_of_le (hpast t rfl))
  | hang hanswer hlimit => exact Awaited.elapse h (Awaited.hung h hanswer) (htime _ hlimit)
  | serve ha =>
      obtain ⟨rfl, due, hdue, _, rfl⟩ := (ahead_iff_served ha).mp h
      exact (ahead_iff_served ha).mpr ⟨rfl, due, hdue, hkept due hdue, rfl⟩
  | delay hdelay => exact ⟨htime _ hdelay, h.2⟩

/-- Nothing that lies ahead is overdue. -/
theorem le (h : Ahead c outcomes seen now rest a failures marks) :
    ∀ mark ∈ marks, millis now ≤ mark.1 := by
  have hattempts := @Timeline.attempts_le c rest
  -- whatever is still to come starts from a time that is not over
  have hfailure : ∀ {time : Nat} {failures : UInt32}, millis now ≤ time →
      ∀ mark ∈ Timeline.afterFailure c (Timeline.attempts c rest) time failures,
        millis now ≤ mark.1 := by
    intro time failures htime mark hmark
    exact Nat.le_trans htime (Timeline.afterFailure_le _ _ hattempts mark hmark)
  have hresume : ∀ {time : Nat}, millis now ≤ time →
      ∀ mark ∈ (time, .state .connecting) :: Timeline.attempts c rest time failures,
        millis now ≤ mark.1 := by
    intro time htime mark hmark
    rcases List.mem_cons.mp hmark with rfl | hmark
    · exact htime
    · exact Nat.le_trans htime (hattempts _ _ mark hmark)
  cases a with
  | starting => exact h ▸ hattempts _ _
  | calling => exact h ▸ hattempts _ _
  | opening script ready limit => exact h.2.2.le
  | answering script limit => exact Awaited.le h
  | accepted n =>
      obtain ⟨after, _, rfl⟩ := h
      exact Timeline.afterAttempt_le _ _ _ hattempts
  | losing n loss => exact h ▸ hfailure (Nat.le_refl _)
  | refused e => exact h ▸ hfailure (Nat.le_refl _)
  | retreating => exact h ▸ hfailure (Nat.le_refl _)
  | retrying delay =>
      cases delay with
      | none =>
          obtain rfl : marks = _ := h
          simp
      | some d =>
          obtain ⟨_, rfl⟩ := h
          exact hresume (Nat.le_add_right _ _)
  | waiting time =>
      obtain ⟨hnow, rfl⟩ := h
      exact hresume (Nat.mul_le_mul_right _ hnow)
  | resuming => exact h ▸ hresume (Nat.le_refl _)
  | done =>
      obtain rfl : marks = [] := h
      exact List.forall_mem_nil _
  | closing => exact h.elim
  | hangingUp => exact h.elim
  | _ =>
      obtain ⟨rfl, due, _, hdue, rfl⟩ := h
      exact hfailure hdue

/-- An attempt that is under way comes to an end. -/
theorem returns (h : Ahead c outcomes seen now rest a failures marks) :
    ∀ script ∈ a.script?, script.Returns := by
  intro script hscript
  cases a with
  | opening started ready limit =>
      obtain ⟨_, _, o, start, _, hdescribes, _⟩ := h
      exact Option.some.inj hscript ▸ hdescribes.returns
  | answering started limit =>
      obtain ⟨o, start, _, hdescribes, _⟩ := h
      exact Option.some.inj hscript ▸ hdescribes.returns
  | _ => cases hscript

end Ahead

end EventFeed.Simulation
