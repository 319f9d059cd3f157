import EventFeed.Proofs.Config.Validity
import EventFeed.Proofs.Reconnection.Delays
import Mathlib.Data.List.Induction

/-! # The policy of a backoff

How far delays double, and how many are handed out. A backoff counts the delays that it hands out
and stops when its budget is used up; a reset starts the count over. Since the last reset it has
handed out the first delays of its policy, in order.
-/

namespace EventFeed.Backoff

/-! ## Doubling -/

/-- Beyond 32 bits the factor is too small, which shows where neither the base delay is nothing nor
the largest delay has been reached. -/
theorem min_mul_factor_eq_iff {base max n : Nat} (hn : 32 ≤ n) :
    min (base * (2 ^ 32 - 1)) max = min (base * 2 ^ n) max ↔
      base = 0 ∨ max ≤ base * (2 ^ 32 - 1) := by
  have hpow : 2 ^ 32 ≤ 2 ^ n := Nat.pow_le_pow_right (by decide) hn
  constructor
  · intro heq
    rcases Nat.eq_zero_or_pos base with hbase | hbase
    · exact .inl hbase
    · have hlt : base * (2 ^ 32 - 1) < base * 2 ^ n := Nat.mul_lt_mul_of_pos_left (by omega) hbase
      exact .inr (by omega)
  · rintro (rfl | hmax)
    · rw [Nat.zero_mul, Nat.zero_mul]
    · have hle : base * (2 ^ 32 - 1) ≤ base * 2 ^ n := Nat.mul_le_mul_left _ (by omega)
      rw [Nat.min_eq_right hmax, Nat.min_eq_right (Nat.le_trans hmax hle)]

/-- What a delay is, and when it is what doubling the base delay each time would make it: up to a
factor of 32 bits, and beyond that only if the base delay is nothing or the largest delay has been
reached. -/
theorem delayFor_doubles_iff (b : Backoff) (attempt : UInt32) :
    (b.delayFor attempt).nanos =
        min (b.base.nanos * min (2 ^ attempt.toNat) (2 ^ 32 - 1)) b.max.nanos ∧
      ((b.delayFor attempt).nanos = min (b.base.nanos * 2 ^ attempt.toNat) b.max.nanos ↔
        attempt.toNat < 32 ∨ b.base.nanos = 0 ∨ b.max.nanos ≤ b.base.nanos * (2 ^ 32 - 1)) := by
  refine ⟨by rw [nanos_delayFor, factor_eq], ?_⟩
  rw [nanos_delayFor]
  rcases Nat.lt_or_ge attempt.toNat 32 with h | h
  · rw [factor_of_lt h]
    exact iff_of_true rfl (.inl h)
  · rw [factor_of_le h, min_mul_factor_eq_iff h, or_iff_right (Nat.not_lt.mpr h)]

/-- Retries that start at a millisecond and are to slow down to one in 2 ^ 40 milliseconds. -/
def unhurried : Config where
  baseReconnectDelayMs := 1
  maxReconnectDelayMs := 1099511627776
  maxReconnectAttempts := 100

/-- After forty delays the largest one is due, and what is waited for is far less. -/
theorem delayFor_unhurried :
    unhurried.Valid ∧ ((ofConfig unhurried).delayFor 40).nanos = (2 ^ 32 - 1) * 10 ^ 6 ∧
      min ((ofConfig unhurried).base.nanos * 2 ^ 40) (ofConfig unhurried).max.nanos =
        2 ^ 40 * 10 ^ 6 := by
  refine ⟨⟨Config.valid_default.endpoint, ?_, by decide⟩, by decide +kernel, by decide +kernel⟩
  intro f
  cases f <;> decide

/-! ## The budget -/

/-- What a backoff can be asked for. -/
inductive Request where
  | next
  | reset
  /-- What the delay would be after so many others; nothing is handed out. -/
  | delayFor (attempt : UInt32)
  deriving DecidableEq

/-- What a request yields, and the backoff after it. -/
def perform (b : Backoff) : Request → Option Duration × Backoff
  | .next => b.next
  | .reset => (none, b.reset)
  | .delayFor attempt => (some (b.delayFor attempt), b)

def run (b : Backoff) (requests : List Request) : Backoff :=
  requests.foldl (fun b request => (b.perform request).2) b

/-- Each request, with what it has yielded. -/
def log (b : Backoff) : List Request → List (Request × Option Duration)
  | [] => []
  | request :: requests => (request, (b.perform request).1) :: (b.perform request).2.log requests

/-- The delays handed out since the latest reset, or since the start if there has been none. -/
def handedOut (log : List (Request × Option Duration)) : List Duration :=
  (log.reverse.takeWhile (·.1 ≠ .reset)).reverse.filterMap fun entry =>
    if entry.1 = .next then entry.2 else none

section

variable {b start : Backoff} {requests : List Request} {request : Request}
  {log : List (Request × Option Duration)} {delays : List Duration}

theorem run_concat : b.run (requests ++ [request]) = ((b.run requests).perform request).2 :=
  List.foldl_append

theorem log_concat : b.log (requests ++ [request]) =
    b.log requests ++ [(request, ((b.run requests).perform request).1)] := by
  induction requests generalizing b with
  | nil => rfl
  | cons first requests ih =>
      rw [List.cons_append, Backoff.log, ih]
      rfl

theorem handedOut_next (delay : Option Duration) :
    handedOut (log ++ [(.next, delay)]) = handedOut log ++ delay.toList := by
  cases delay <;> simp [handedOut]

theorem handedOut_reset (delay : Option Duration) : handedOut (log ++ [(.reset, delay)]) = [] := by
  simp [handedOut]

theorem handedOut_delayFor (attempt : UInt32) (delay : Option Duration) :
    handedOut (log ++ [(.delayFor attempt, delay)]) = handedOut log := by
  simp [handedOut]

/-- The first delays of a policy, in order. -/
def firstDelays (start : Backoff) (count : Nat) : List Duration :=
  (List.range count).map fun n => start.delayFor (UInt32.ofNat n)

/-- A backoff has kept the policy that it started with, and counted the delays handed out. -/
structure Counts (start b : Backoff) (delays : List Duration) : Prop where
  policy : b.reset = start
  count : b.attempt.toNat = delays.length
  within : b.attempt ≤ b.maxAttempts
  delays_eq : delays = firstDelays start delays.length

namespace Counts

theorem fresh (h : b.reset = start) : Counts start b.reset [] where
  policy := h
  count := rfl
  within := UInt32.zero_le
  delays_eq := rfl

theorem delayFor_eq (h : Counts start b delays) (attempt : UInt32) :
    b.delayFor attempt = start.delayFor attempt := by
  rw [← h.policy, delayFor_reset]

theorem next (h : Counts start b delays) :
    Counts start b.next.2 (delays ++ b.next.1.toList) := by
  rcases UInt32.lt_or_eq_of_le h.within with hlt | heq
  · rw [next_of_lt hlt]
    have hdelay : b.delayFor b.attempt = start.delayFor (UInt32.ofNat delays.length) := by
      rw [h.delayFor_eq, ← h.count, UInt32.ofNat_toNat]
    refine ⟨h.policy, ?_, ?_, ?_⟩
    · simpa using (toNat_attempt_succ hlt).trans (congrArg (· + 1) h.count)
    · have hlt' := UInt32.lt_iff_toNat_lt.mp hlt
      rw [UInt32.le_iff_toNat_le]
      exact (toNat_attempt_succ hlt).symm ▸ hlt'
    · conv_lhs => rw [h.delays_eq, hdelay]
      simp [firstDelays, List.range_succ]
  · rw [next_of_le (UInt32.le_of_eq heq.symm)]
    simpa using h

theorem perform (h : Counts start (b.run requests) (handedOut (b.log requests))) :
    Counts start (b.run (requests ++ [request])) (handedOut (b.log (requests ++ [request]))) := by
  rw [run_concat, log_concat]
  cases request with
  | next =>
      rw [handedOut_next]
      exact h.next
  | reset =>
      rw [handedOut_reset]
      exact .fresh h.policy
  | delayFor attempt =>
      rw [handedOut_delayFor]
      exact h

theorem run (h : b.reset = b) (requests : List Request) :
    Counts b (b.run requests) (handedOut (b.log requests)) := by
  induction requests using List.reverseRecOn with
  | nil =>
      have hfresh := fresh h
      rwa [h] at hfresh
  | append_singleton requests request ih => exact ih.perform

end Counts

theorem next_eq_none_iff (h : b.attempt ≤ b.maxAttempts) :
    b.next.1 = none ↔ b.attempt = b.maxAttempts := by
  rcases UInt32.lt_or_eq_of_le h with hlt | heq
  · rw [next_of_lt hlt]
    exact iff_of_false (by simp) (UInt32.ne_of_lt hlt)
  · rw [next_of_le (UInt32.le_of_eq heq.symm)]
    exact iff_of_true rfl heq

theorem mem_firstDelays {count : Nat} {d : Duration} (h : d ∈ start.firstDelays count) :
    ∃ attempt, start.delayFor attempt = d := by
  obtain ⟨n, _, hn⟩ := List.mem_map.mp h
  exact ⟨_, hn⟩

theorem firstDelays_mono {count : Nat} (h : count < 2 ^ 32) :
    (start.firstDelays count).Pairwise fun d e => d.nanos ≤ e.nanos := by
  rw [firstDelays, List.pairwise_map]
  refine List.pairwise_lt_range.imp_of_mem ?_
  intro m n hm hn hlt
  rw [List.mem_range] at hm hn
  refine delayFor_mono start ?_
  rw [UInt32.le_iff_toNat_le, UInt32.toNat_ofNat', UInt32.toNat_ofNat',
    Nat.mod_eq_of_lt (by omega), Nat.mod_eq_of_lt (by omega)]
  exact Nat.le_of_lt hlt

end

/-- Whatever is asked of a backoff, and in whatever order:

* its count is that of the delays handed out since the latest reset, and stays within the budget;
* it hands out nothing exactly when the count has come up to the budget, and is left as it is then;
  otherwise its count goes up by one;
* the delays handed out since the latest reset are the first ones of its policy, in order; none is
  less than the one before it, and none is more than the largest delay;
* if the policy is that of a valid configuration, the base delay is not nothing, and each delay lies
  between the base delay and the largest one. -/
theorem delays_keep_to_their_budget (base max : Duration) (maxAttempts : UInt32)
    (requests : List Request) :
    let start : Backoff := ⟨base, max, maxAttempts, 0⟩
    let b := start.run requests
    let delays := handedOut (start.log requests)
    (b.attempt.toNat = delays.length ∧ b.attempt ≤ maxAttempts) ∧
      ((b.next.1 = none ↔ b.attempt = maxAttempts) ∧ (b.next.1 = none → b.next.2 = b) ∧
        (b.next.1 ≠ none → b.next.2.attempt.toNat = b.attempt.toNat + 1)) ∧
      (delays = (List.range delays.length).map (fun n => start.delayFor (UInt32.ofNat n)) ∧
        delays.Pairwise (fun d e => d.nanos ≤ e.nanos) ∧ ∀ d ∈ delays, d.nanos ≤ max.nanos) ∧
      ∀ c : Config, c.validate = .ok () → start = ofConfig c →
        0 < c.baseReconnectDelay.nanos ∧ ∀ d ∈ delays,
          c.baseReconnectDelay.nanos ≤ d.nanos ∧ d.nanos ≤ c.maxReconnectDelay.nanos := by
  intro start b delays
  have hcounts : Counts start b delays := Counts.run rfl requests
  have hbudget : b.maxAttempts = maxAttempts := congrArg (·.maxAttempts) hcounts.policy
  have hwithin : b.attempt ≤ maxAttempts := hbudget ▸ hcounts.within
  have hnext := next_eq_none_iff hcounts.within
  rw [hbudget] at hnext
  refine ⟨⟨hcounts.count, hwithin⟩, ⟨hnext, ?_, ?_⟩, ⟨hcounts.delays_eq, ?_, ?_⟩, ?_⟩
  · intro hnone
    rw [next_of_le (UInt32.le_of_eq (hbudget.trans (hnext.mp hnone).symm))]
  · intro hsome
    have hlt : b.attempt < b.maxAttempts := by
      refine UInt32.lt_of_le_of_ne hcounts.within ?_
      rw [hbudget]
      exact mt hnext.mpr hsome
    rw [next_of_lt hlt]
    exact toNat_attempt_succ hlt
  · rw [hcounts.delays_eq]
    exact firstDelays_mono (hcounts.count ▸ b.attempt.toNat_lt)
  · intro d hd
    rw [hcounts.delays_eq] at hd
    obtain ⟨attempt, rfl⟩ := mem_firstDelays hd
    exact start.delayFor_le_max attempt
  · intro c hvalidate hstart
    have hvalid := Config.validate_eq_ok.mp hvalidate
    have hbase : start.base = c.baseReconnectDelay := congrArg (·.base) hstart
    have hmax : start.max = c.maxReconnectDelay := congrArg (·.max) hstart
    have hordered : start.base.nanos ≤ start.max.nanos := by
      rw [hbase, hmax]
      exact Nat.mul_le_mul_right _ hvalid.ordered
    have hpos : 0 < c.baseReconnectDelayMs.toNat :=
      hvalid.positive .baseReconnectDelay (by decide) (by decide)
    refine ⟨Nat.mul_pos hpos (by decide), ?_⟩
    intro d hd
    rw [hcounts.delays_eq] at hd
    obtain ⟨attempt, rfl⟩ := mem_firstDelays hd
    rw [← hbase, ← hmax]
    exact ⟨base_le_delayFor hordered attempt, start.delayFor_le_max attempt⟩

/-- Two retries are allowed after a failure. -/
def frugal : Config where
  maxReconnectAttempts := 2

/-- The budget is used up, started over and used up again; in between nothing is handed out. -/
def frugalRequests : List Request :=
  [.next, .reset, .next, .delayFor 40, .next, .next]

theorem delays_keep_to_their_budget_frugal :
    frugal.validate = .ok () ∧
      (handedOut ((ofConfig frugal).log frugalRequests)).map (·.nanos) = [10 ^ 9, 2 * 10 ^ 9] ∧
      ((ofConfig frugal).run frugalRequests).next.1 = none ∧
      ∀ d ∈ handedOut ((ofConfig frugal).log frugalRequests),
        10 ^ 9 ≤ d.nanos ∧ d.nanos ≤ 30 * 10 ^ 9 := by
  have hvalid : frugal.Valid := by
    refine ⟨Config.valid_default.endpoint, ?_, by decide⟩
    intro f
    cases f <;> decide
  have hvalidate : frugal.validate = .ok () := Config.validate_eq_ok.mpr hvalid
  obtain ⟨_, ⟨hnone, _, _⟩, _, hdelays⟩ := delays_keep_to_their_budget frugal.baseReconnectDelay
    frugal.maxReconnectDelay frugal.maxReconnectAttempts frugalRequests
  obtain ⟨_, hbounds⟩ := hdelays frugal hvalidate rfl
  exact ⟨hvalidate, by decide +kernel, hnone.mpr (by decide +kernel), hbounds⟩

end EventFeed.Backoff
