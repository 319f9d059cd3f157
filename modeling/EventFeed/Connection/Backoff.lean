import EventFeed.Config.Basic

/-! # Reconnect backoff

The delay before a retry doubles with every failure up to a largest delay, and only so many delays
are handed out before the retries are used up. A success starts the count over.
-/

namespace EventFeed

structure Backoff where
  base : Duration
  max : Duration
  maxAttempts : UInt32
  /-- The delays handed out since the last reset. -/
  attempt : UInt32 := 0
  deriving DecidableEq, Repr

namespace Backoff

def ofConfig (c : Config) : Backoff :=
  ⟨c.baseReconnectDelay, c.maxReconnectDelay, c.maxReconnectAttempts, 0⟩

/-- The factor of a delay: two to the power of the attempt while that fits 32 bits, and the largest
number of 32 bits beyond. -/
def factor (attempt : UInt32) : Nat :=
  if attempt.toNat < 32 then 2 ^ attempt.toNat else 2 ^ 32 - 1

/-- The delay after so many earlier ones. A product out of range counts as the largest delay. -/
def delayFor (b : Backoff) (attempt : UInt32) : Duration :=
  match b.base.mul? (factor attempt) with
  | some d => d.min b.max
  | none => b.max

def isExhausted (b : Backoff) : Bool := b.maxAttempts ≤ b.attempt

def reset (b : Backoff) : Backoff := { b with attempt := 0 }

/-- Hands out the next delay, or nothing when the retries are used up. -/
def next (b : Backoff) : Option Duration × Backoff :=
  if b.isExhausted then (none, b)
  else (some (b.delayFor b.attempt), { b with attempt := b.attempt + 1 })

end Backoff

end EventFeed
