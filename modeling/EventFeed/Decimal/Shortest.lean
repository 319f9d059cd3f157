import EventFeed.Decimal.Binary64

/-! # Shortest decimal text

A binary number is written with the fewest decimal digits that read back as the same number; of two
such decimals the nearer one is taken, and a tie goes to the even last digit. Where the point stands
and when an exponent is written is a matter of the style.
-/

namespace EventFeed

namespace Binary64

/-- A quarter of the unit in which `units` counts: the grid on which the ends of the interval of
decimals that read back as `x` are whole. -/
def quarterUnits (x : Binary64) : Nat := 4 * x.units

/-- The distance down to the middle between `x` and its lower neighbour, in quarter units. It is
halved where the lower neighbour belongs to the next smaller scale. -/
def gapBelow (x : Binary64) : Nat :=
  if x.mantissa = 2 ^ 52 ∧ 0 < x.scale then 2 ^ x.scale else 2 * 2 ^ x.scale

/-- The distance up to the middle between `x` and its upper neighbour, in quarter units. -/
def gapAbove (x : Binary64) : Nat := 2 * 2 ^ x.scale

/-- Whether `point / den` quarter units read back as `x`: the ends of the interval belong to `x`
when its mantissa is even. -/
def readsBack (x : Binary64) (point den : Nat) : Bool :=
  let low := (x.quarterUnits - x.gapBelow) * den
  let high := (x.quarterUnits + x.gapAbove) * den
  if x.mantissa % 2 = 0 then low ≤ point && point ≤ high else low < point && point < high

/-- The exponent of the leading decimal digit of `num / den`, both positive, searched from a first
guess upwards. -/
def leadingExponent (num den : Nat) : Int :=
  let fits (e : Int) : Bool :=
    match e with
    | .ofNat k => den * 10 ^ k ≤ num
    | .negSucc k => den ≤ num * 10 ^ (k + 1)
  let guess : Int := ((num.log2 : Int) - (den.log2 : Int) - 1) * 30103 / 100000 - 1
  (List.range 4).foldl (fun best (i : Nat) => if fits (guess + i) then guess + i else best) guess

/-- The multiples of ten to the power of `e` around a magnitude, tried as decimals for `x`: the
number of tens when one of the two neighbours reads back. -/
def onGrid? (x : Binary64) (e : Int) : Option Nat :=
  let (num, den, step) : Nat × Nat × Nat :=
    match e with
    | .ofNat k => (x.quarterUnits, 1, 4 * 2 ^ unitExponent * 10 ^ k)
    | .negSucc k => (x.quarterUnits * 10 ^ (k + 1), 10 ^ (k + 1), 4 * 2 ^ unitExponent)
  let below := num / step
  let above := below + 1
  let belowFits := x.readsBack (below * step) den
  let aboveFits := x.readsBack (above * step) den
  let down := num - below * step
  let up := above * step - num
  if belowFits && aboveFits then
    some (if down < up then below
      else if up < down then above
      else if below % 2 = 0 then below else above)
  else if belowFits then some below
  else if aboveFits then some above
  else none

/-- The first of the decimals with `count`, `count + 1`, … digits that reads back as `x`, as digits
and the exponent of the last of them. -/
def searchDigits (x : Binary64) (leading : Int) : Nat → Nat → Nat × Int
  | 0, _ => (0, 0)
  | fuel + 1, count =>
    let e := leading - count
    match x.onGrid? e with
    | some d => (d, e)
    | none => x.searchDigits leading fuel (count + 1)

/-- Takes the zeros off the end of a number of digits. -/
def dropZeros : Nat → Nat → Int → Nat × Int
  | 0, d, e => (d, e)
  | fuel + 1, d, e => if d ≠ 0 ∧ d % 10 = 0 then dropZeros fuel (d / 10) (e + 1) else (d, e)

/-- The shortest decimal of a magnitude: its digits and the exponent of the last of them. -/
def shortest (x : Binary64) : Nat × Int :=
  if x.isZero then (0, 0)
  else
    let leading := leadingExponent x.units (2 ^ unitExponent)
    let (d, e) := x.searchDigits leading 20 0
    dropZeros 20 d e

end Binary64

/-- How the decimal of a binary number is laid out. -/
structure DecimalStyle where
  /-- The smallest and largest exponent of the leading digit written without an exponent; `none`
  for no bound. -/
  positional : Option (Int × Int)
  deriving Repr

namespace DecimalStyle

/-- The style of data text: an exponent, with its sign, below `10 ^ (-5)` and from `10 ^ 16` on. -/
def data : DecimalStyle := ⟨some (-5, 15)⟩

def plain : DecimalStyle := ⟨none⟩

/-- Digits with a point, and a zero where one side of the point would be empty. -/
def layOut (digits : List Char) (leading : Int) : List Char :=
  match leading with
  | .ofNat k =>
    if digits.length ≤ k + 1 then
      digits ++ List.replicate (k + 1 - digits.length) '0' ++ ['.', '0']
    else digits.take (k + 1) ++ ['.'] ++ digits.drop (k + 1)
  | .negSucc k => ['0', '.'] ++ List.replicate k '0' ++ digits

/-- Digits with a point after the first and an exponent with its sign. -/
def withExponent (digits : List Char) (leading : Int) : List Char :=
  let mantissa := match digits with
    | [] => ['0']
    | [d] => [d]
    | d :: rest => d :: '.' :: rest
  let sign := if 0 ≤ leading then '+' else '-'
  mantissa ++ ['e', sign] ++ Nat.toDigits 10 leading.natAbs

/-- The shortest text of a number, always with a point or an exponent. -/
def render (style : DecimalStyle) (x : Binary64) : List Char :=
  let (d, e) := x.shortest
  let digits := Nat.toDigits 10 d
  let leading : Int := e + digits.length - 1
  let body :=
    match style.positional with
    | none => layOut digits leading
    | some (low, high) =>
      if x.isZero || (low ≤ leading && leading ≤ high) then layOut digits leading
      else withExponent digits leading
  if x.negative then '-' :: body else body

end DecimalStyle

end EventFeed
