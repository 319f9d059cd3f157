import EventFeed.Instances

/-! # Binary floating point

The finite numbers of the 64-bit binary format as exact values: a sign, a mantissa and a power of
two. Rounding a ratio of natural numbers to the format goes to the nearest value, and a tie goes to
the even mantissa. Products and quotients are rounded once, from the exact result.
-/

namespace EventFeed

/-- The finite number `± mantissa * 2 ^ (scale - 1074)`. Values made by `Binary64.ofRatio?` have a
mantissa below `2 ^ 53`, and at least `2 ^ 52` when `scale` is positive. -/
structure Binary64 where
  negative : Bool
  mantissa : Nat
  scale : Nat
  deriving DecidableEq, Repr, Inhabited

namespace Binary64

/-- The exponent of the smallest positive value, `2 ^ (-1074)`. -/
def unitExponent : Nat := 1074

def maxScale : Nat := 2045

/-- The quotient rounded to the nearest natural number, a tie to the even one. -/
def roundHalfEven (num den : Nat) : Nat :=
  let q := num / den
  let twice := 2 * (num % den)
  if twice < den then q
  else if twice > den then q + 1
  else if q % 2 = 0 then q else q + 1

def zero (negative : Bool) : Binary64 := ⟨negative, 0, 0⟩

def isZero (x : Binary64) : Bool := x.mantissa == 0

/-- The value nearest to `num / den`, or nothing when it is beyond the largest finite value. -/
def ofRatio? (negative : Bool) (num den : Nat) : Option Binary64 :=
  let units := num * 2 ^ unitExponent
  let whole := units / den
  let scale := if whole = 0 then 0 else whole.log2 - 52
  let mantissa := roundHalfEven units (den * 2 ^ scale)
  let (mantissa, scale) :=
    if mantissa = 2 ^ 53 then (2 ^ 52, scale + 1) else (mantissa, scale)
  if scale ≤ maxScale then some ⟨negative, mantissa, scale⟩ else none

def ofNat? (negative : Bool) (n : Nat) : Option Binary64 := ofRatio? negative n 1

/-- The magnitude as a numerator over `2 ^ unitExponent`. -/
def units (x : Binary64) : Nat := x.mantissa * 2 ^ x.scale

def mul? (x y : Binary64) : Option Binary64 :=
  ofRatio? (x.negative != y.negative) (x.units * y.units) (2 ^ (2 * unitExponent))

def div? (x y : Binary64) : Option Binary64 :=
  ofRatio? (x.negative != y.negative) x.units y.units

def neg (x : Binary64) : Binary64 := { x with negative := !x.negative }

/-- The value nearest to `± digits * 10 ^ exponent`. -/
def ofDecimal? (negative : Bool) (digits : Nat) (exponent : Int) : Option Binary64 :=
  match exponent with
  | .ofNat e => ofRatio? negative (digits * 10 ^ e) 1
  | .negSucc e => ofRatio? negative digits (10 ^ (e + 1))

end Binary64

end EventFeed
