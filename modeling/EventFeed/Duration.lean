import EventFeed.Instances

/-! # Durations

A length of time in whole nanoseconds, below `2 ^ 64` seconds. Its text uses the largest unit in
which it is at least one, with as many decimals as it needs.
-/

namespace EventFeed

structure Duration where
  nanos : Nat
  inRange : nanos < 2 ^ 64 * 10 ^ 9
  deriving DecidableEq, Repr

namespace Duration

instance : Inhabited Duration := ⟨⟨0, by decide⟩⟩

def ofMillis (ms : UInt64) : Duration :=
  ⟨ms.toNat * 10 ^ 6, by have := ms.toNat_lt; omega⟩

/-- Seconds and the nanoseconds of a further part of a second. -/
def ofParts? (seconds nanos : Nat) : Option Duration :=
  if h : seconds * 10 ^ 9 + nanos < 2 ^ 64 * 10 ^ 9 then some ⟨seconds * 10 ^ 9 + nanos, h⟩
  else none

def seconds (d : Duration) : Nat := d.nanos / 10 ^ 9

def subsecNanos (d : Duration) : Nat := d.nanos % 10 ^ 9

/-- The milliseconds after which a timer for this duration fires. -/
def ceilMillis (d : Duration) : Nat := (d.nanos + 999999) / 10 ^ 6

def min (a b : Duration) : Duration := if a.nanos ≤ b.nanos then a else b

/-- A multiple, unless it is out of range. -/
def mul? (d : Duration) (factor : Nat) : Option Duration :=
  if h : d.nanos * factor < 2 ^ 64 * 10 ^ 9 then some ⟨d.nanos * factor, h⟩ else none

/-- A whole number with `width` decimals, without zeros at the end. -/
def decimal (whole part width : Nat) : String :=
  let digits := Nat.toDigits 10 part
  let padded := List.replicate (width - digits.length) '0' ++ digits
  let kept := (padded.reverse.dropWhile (· == '0')).reverse
  if kept.isEmpty then toString whole else s!"{whole}." ++ String.ofList kept

/-- The text of a duration, such as `1.5s`, `100ms` or `10µs`. -/
def text (d : Duration) : String :=
  if 10 ^ 9 ≤ d.nanos then decimal d.seconds d.subsecNanos 9 ++ "s"
  else if 10 ^ 6 ≤ d.nanos then decimal (d.nanos / 10 ^ 6) (d.nanos % 10 ^ 6) 6 ++ "ms"
  else if 10 ^ 3 ≤ d.nanos then decimal (d.nanos / 10 ^ 3) (d.nanos % 10 ^ 3) 3 ++ "µs"
  else s!"{d.nanos}ns"

end Duration

end EventFeed
