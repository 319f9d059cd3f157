import EventFeed.Connection.Session

/-! # The delays of a backoff

A delay is the base delay times a factor, and never more than the largest delay. The factor doubles
from one delay to the next as long as it fits 32 bits, and stays what it is from then on: a largest
delay that has not been reached by then is not reached at all.
-/

namespace EventFeed

namespace Backoff

theorem factor_of_lt {attempt : UInt32} (h : attempt.toNat < 32) :
    factor attempt = 2 ^ attempt.toNat := if_pos h

theorem factor_of_le {attempt : UInt32} (h : 32 ≤ attempt.toNat) :
    factor attempt = 2 ^ 32 - 1 := if_neg (Nat.not_lt.mpr h)

theorem factor_eq (attempt : UInt32) :
    factor attempt = min (2 ^ attempt.toNat) (2 ^ 32 - 1) := by
  rcases Nat.lt_or_ge attempt.toNat 32 with h | h
  · have hpow : 2 ^ attempt.toNat ≤ 2 ^ 31 := Nat.pow_le_pow_right (by decide) (by omega)
    rw [factor_of_lt h, Nat.min_eq_left (by omega)]
  · have hpow : 2 ^ 32 ≤ 2 ^ attempt.toNat := Nat.pow_le_pow_right (by decide) h
    rw [factor_of_le h, Nat.min_eq_right (by omega)]

theorem factor_pos (attempt : UInt32) : 0 < factor attempt := by
  rw [factor_eq]
  exact Nat.lt_min.mpr ⟨Nat.two_pow_pos _, by decide⟩

theorem factor_mono {m n : UInt32} (h : m ≤ n) : factor m ≤ factor n := by
  have hpow : 2 ^ m.toNat ≤ 2 ^ n.toNat :=
    Nat.pow_le_pow_right (by decide) (UInt32.le_iff_toNat_le.mp h)
  rw [factor_eq, factor_eq]
  omega

/-- A product that is out of range is beyond the largest delay. -/
theorem nanos_delayFor (b : Backoff) (attempt : UInt32) :
    (b.delayFor attempt).nanos = min (b.base.nanos * factor attempt) b.max.nanos := by
  unfold delayFor Duration.mul?
  by_cases hrange : b.base.nanos * factor attempt < 2 ^ 64 * 10 ^ 9
  · rw [dif_pos hrange]
    simp only [Duration.min]
    split
    next hle => exact (Nat.min_eq_left hle).symm
    next hle => exact (Nat.min_eq_right (Nat.le_of_not_le hle)).symm
  · have hmax := b.max.inRange
    rw [dif_neg hrange, Nat.min_eq_right (by omega)]

/-- A delay depends on how many came before, and not on how many the backoff has handed out. -/
theorem delayFor_attempt (b : Backoff) (attempt failures : UInt32) :
    ({ b with attempt } : Backoff).delayFor failures = b.delayFor failures := by
  rw [delayFor, delayFor]

theorem delayFor_reset (b : Backoff) (attempt : UInt32) :
    b.reset.delayFor attempt = b.delayFor attempt := b.delayFor_attempt 0 attempt

theorem delayFor_pos {b : Backoff} (hbase : 0 < b.base.nanos) (hmax : 0 < b.max.nanos)
    (attempt : UInt32) : 0 < (b.delayFor attempt).nanos := by
  rw [nanos_delayFor]
  exact Nat.lt_min.mpr ⟨Nat.mul_pos hbase (factor_pos attempt), hmax⟩

theorem delayFor_le_max (b : Backoff) (attempt : UInt32) :
    (b.delayFor attempt).nanos ≤ b.max.nanos := by
  rw [nanos_delayFor]
  exact Nat.min_le_right _ _

theorem delayFor_mono (b : Backoff) {m n : UInt32} (h : m ≤ n) :
    (b.delayFor m).nanos ≤ (b.delayFor n).nanos := by
  have hproduct : b.base.nanos * factor m ≤ b.base.nanos * factor n :=
    Nat.mul_le_mul_left _ (factor_mono h)
  rw [nanos_delayFor, nanos_delayFor]
  omega

theorem base_le_delayFor {b : Backoff} (h : b.base.nanos ≤ b.max.nanos) (attempt : UInt32) :
    b.base.nanos ≤ (b.delayFor attempt).nanos := by
  rw [nanos_delayFor]
  exact Nat.le_min.mpr ⟨Nat.le_mul_of_pos_right _ (factor_pos attempt), h⟩

/-! ## Handing out -/

theorem next_of_le {b : Backoff} (h : b.maxAttempts ≤ b.attempt) : b.next = (none, b) := by
  have hexhausted : b.isExhausted = true := by simp [isExhausted, h]
  rw [next, if_pos hexhausted]

theorem next_of_lt {b : Backoff} (h : b.attempt < b.maxAttempts) :
    b.next = (some (b.delayFor b.attempt), { b with attempt := b.attempt + 1 }) := by
  have hleft : b.isExhausted = false := by simp [isExhausted, UInt32.not_le.mpr h]
  rw [next, hleft]
  rfl

/-- As long as a budget is left, the count can go up by one without an overflow. -/
theorem toNat_attempt_succ {b : Backoff} (h : b.attempt < b.maxAttempts) :
    (b.attempt + 1).toNat = b.attempt.toNat + 1 := by
  have hlt := UInt32.lt_iff_toNat_lt.mp h
  have hmax := b.maxAttempts.toNat_lt
  rw [UInt32.toNat_add, UInt32.toNat_one, Nat.mod_eq_of_lt (by omega)]

theorem next_eq_some {b : Backoff} {delay : Duration} (h : b.next.1 = some delay) :
    delay = b.delayFor b.attempt := by
  unfold next at h
  split at h
  · cases h
  · exact (Option.some.inj h).symm

theorem next_reset (b : Backoff) : b.next.2.reset = b.reset := by
  unfold next
  split <;> rfl

end Backoff

/-! ## Setbacks -/

namespace Session

variable {s : Session}

theorem setback_of_le (h : s.backoff.maxAttempts ≤ s.backoff.attempt) : s.setback = (none, s) := by
  rw [setback, Backoff.next_of_le h]

theorem setback_of_lt (h : s.backoff.attempt < s.backoff.maxAttempts) :
    s.setback = (some (s.backoff.delayFor s.backoff.attempt),
      { s with backoff := { s.backoff with attempt := s.backoff.attempt + 1 } }) := by
  rw [setback, Backoff.next_of_lt h]

end Session

end EventFeed
