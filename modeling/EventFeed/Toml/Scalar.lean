import EventFeed.Decimal.Shortest

/-! # TOML scalars

What a bare value of a configuration file denotes: a truth value, an integer in one of four radices,
a floating-point number, or a date or time.
-/

namespace EventFeed.Toml

/-- A number with a fraction, an exponent, or without a finite value. -/
inductive Real where
  | finite (value : Binary64)
  | infinite (negative : Bool)
  | nan
  deriving DecidableEq, Repr

inductive Scalar where
  | text (value : String)
  | bool (value : Bool)
  | integer (value : Int)
  | real (value : Real)
  | dateTime
  deriving DecidableEq, Repr

def Real.text : Real → String
  | finite x => String.ofList (DecimalStyle.plain.render x)
  | infinite false => "inf"
  | infinite true => "-inf"
  | nan => "NaN"

namespace Bare

def isDigit (c : Char) : Bool := '0' ≤ c && c ≤ '9'

/-- The value of a digit in radices up to sixteen. -/
def digitValue? (c : Char) : Option Nat :=
  if isDigit c then some (c.toNat - '0'.toNat)
  else if 'a' ≤ c && c ≤ 'f' then some (c.toNat - 'a'.toNat + 10)
  else if 'A' ≤ c && c ≤ 'F' then some (c.toNat - 'A'.toNat + 10)
  else none

/-- Whether a character is a digit of a radix. -/
def isDigitIn (radix : Nat) (c : Char) : Bool :=
  ((digitValue? c).map fun d => decide (d < radix)).getD false

/-- Digits with single underscores between them, without the underscores. -/
def digits? (radix : Nat) : List Char → Option (List Char)
  | [] => none
  | [c] => if isDigitIn radix c then some [c] else none
  | c :: '_' :: rest =>
    if isDigitIn radix c && !rest.isEmpty then (digits? radix rest).map (c :: ·) else none
  | c :: rest => if isDigitIn radix c then (digits? radix rest).map (c :: ·) else none

def valueIn (radix : Nat) (ds : List Char) : Nat :=
  ds.foldl (fun n c => n * radix + (digitValue? c).getD 0) 0

/-- A sign and what follows it. -/
def splitSign : List Char → Bool × List Char
  | '-' :: rest => (true, rest)
  | '+' :: rest => (false, rest)
  | cs => (false, cs)

/-- Decimal digits without a leading zero. -/
def whole? (cs : List Char) : Option (List Char) := do
  let ds ← digits? 10 cs
  match ds with
  | '0' :: _ :: _ => none
  | _ => some ds

def integer? : List Char → Option Int
  | '0' :: 'x' :: rest => (digits? 16 rest).map fun ds => valueIn 16 ds
  | '0' :: 'o' :: rest => (digits? 8 rest).map fun ds => valueIn 8 ds
  | '0' :: 'b' :: rest => (digits? 2 rest).map fun ds => valueIn 2 ds
  | cs => do
    let (negative, rest) := splitSign cs
    let n := valueIn 10 (← whole? rest)
    return if negative then -n else n

/-- The finite number of a decimal, or `none` when it is too large. Far outside the range of the
format the digits do not matter. -/
def finite? (negative : Bool) (digits : List Char) (exponent : Int) : Option Binary64 :=
  let n := valueIn 10 digits
  let leading := exponent + digits.length
  if n = 0 ∨ leading < -400 then some (.zero negative)
  else if 800 + digits.length < leading then none
  else Binary64.ofDecimal? negative n exponent

/-- The exponent of a number, its mark being read already. -/
def exponent? (cs : List Char) : Option Int := do
  let (negative, rest) := splitSign cs
  let n := valueIn 10 (← digits? 10 rest)
  return if negative then -n else n

/-- A number with a fraction or an exponent. -/
def decimal? (cs : List Char) : Option Real := do
  let (negative, rest) := splitSign cs
  let isMark (c : Char) : Bool := c == 'e' || c == 'E'
  let mantissa := rest.takeWhile (!isMark ·)
  let mark := rest.drop mantissa.length
  let wholePart := mantissa.takeWhile (· != '.')
  let ds ← whole? wholePart
  let part ← match mantissa.drop wholePart.length with
    | [] => if mark.isEmpty then none else some []
    | _ :: fraction => digits? 10 fraction
  let e ← match mark with
    | [] => some 0
    | _ :: text => exponent? text
  let x ← finite? negative (ds ++ part) (e - part.length)
  return .finite x

def real? (cs : List Char) : Option Real :=
  match cs with
  | ['i', 'n', 'f'] | ['+', 'i', 'n', 'f'] => some (.infinite false)
  | ['-', 'i', 'n', 'f'] => some (.infinite true)
  | ['n', 'a', 'n'] | ['+', 'n', 'a', 'n'] | ['-', 'n', 'a', 'n'] => some .nan
  | _ => decimal? cs

/-! ## Dates and times -/

/-- A number of exactly two digits. -/
def two? (a b : Char) : Option Nat :=
  if isDigit a && isDigit b then some (valueIn 10 [a, b]) else none

def daysIn (year month : Nat) : Nat :=
  let leap := year % 4 = 0 ∧ (year % 100 ≠ 0 ∨ year % 400 = 0)
  if month = 2 then (if leap then 29 else 28)
  else if month = 4 ∨ month = 6 ∨ month = 9 ∨ month = 11 then 30
  else 31

/-- What follows a date at the start, if there is one. -/
def date? : List Char → Option (List Char)
  | y₁ :: y₂ :: y₃ :: y₄ :: '-' :: m₁ :: m₂ :: '-' :: d₁ :: d₂ :: rest => do
    let year := (← two? y₁ y₂) * 100 + (← two? y₃ y₄)
    let month ← two? m₁ m₂
    let day ← two? d₁ d₂
    if 1 ≤ month ∧ month ≤ 12 ∧ 1 ≤ day ∧ day ≤ daysIn year month then some rest else none
  | _ => none

/-- What follows the seconds and their fraction, which may be left out. -/
def seconds? : List Char → Option (List Char)
  | ':' :: a :: b :: rest => do
    let s ← two? a b
    if 60 < s then none
    else
      match rest with
      | '.' :: fraction =>
        let ds := fraction.takeWhile isDigit
        if ds.isEmpty then none else some (fraction.drop ds.length)
      | _ => some rest
  | ':' :: _ => none
  | rest => some rest

/-- What follows a time at the start. -/
def time? : List Char → Option (List Char)
  | h₁ :: h₂ :: ':' :: m₁ :: m₂ :: rest => do
    let hour ← two? h₁ h₂
    let minute ← two? m₁ m₂
    if 23 < hour ∨ 59 < minute then none else seconds? rest
  | _ => none

def isOffset : List Char → Bool
  | [] | ['Z'] | ['z'] => true
  | [s, h₁, h₂, ':', m₁, m₂] =>
    (s == '+' || s == '-') &&
      match two? h₁ h₂, two? m₁ m₂ with
      | some h, some m => decide (h ≤ 23 ∧ m ≤ 59)
      | _, _ => false
  | _ => false

def isDateTime (cs : List Char) : Bool :=
  match date? cs with
  | some [] => true
  | some (c :: rest) =>
    (c == 'T' || c == 't' || c == ' ') &&
      match time? rest with
      | some offset => isOffset offset
      | none => false
  | none => time? cs == some []

/-- The scalar that a bare value denotes. -/
def scalar? (cs : List Char) : Option Scalar :=
  if cs = ['t', 'r', 'u', 'e'] then some (.bool true)
  else if cs = ['f', 'a', 'l', 's', 'e'] then some (.bool false)
  else
    match integer? cs with
    | some n => some (.integer n)
    | none =>
      match real? cs with
      | some x => some (.real x)
      | none => if isDateTime cs then some .dateTime else none

end Bare

end EventFeed.Toml
