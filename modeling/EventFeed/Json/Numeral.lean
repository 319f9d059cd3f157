import EventFeed.Json.Basic
import EventFeed.Json.Cursor

/-! # Numbers in data text

A number without fraction and exponent that fits 64 bits is an integer. Every other number is binary
floating point: its leading digits, as many as fit 64 bits, are scaled by a power of ten with one
rounding for each factor.
-/

namespace EventFeed.Json

inductive Numeral where
  | int (value : Int)
  | real (value : Binary64)
  deriving Repr, DecidableEq

def Numeral.toJson : Numeral → Json
  | .int n => .int n
  | .real x => .real x

namespace Numeral

/-- The largest number that the leading digits may form. -/
def maxSignificand : Nat := 2 ^ 64 - 1

def digit (c : Char) : Nat := c.toNat - '0'.toNat

/-- Appends digits while the number fits 64 bits: the number, how many digits were appended, and the
digits left over. -/
def absorb (significand : Nat) : List Char → Nat × Nat × List Char
  | [] => (significand, 0, [])
  | c :: rest =>
    if significand * 10 + digit c ≤ maxSignificand then
      let (s, count, left) := absorb (significand * 10 + digit c) rest
      (s, count + 1, left)
    else (significand, 0, c :: rest)

/-- The largest power of ten used as one factor. -/
def maxPower : Nat := 308

/-- The nearest value to a power of ten, up to `maxPower`. -/
def powerOfTen (n : Nat) : Binary64 := (Binary64.ofNat? false (10 ^ n)).getD (.zero false)

/-- Divides by powers of ten until the exponent is used up or nothing is left. -/
def shrink : Nat → Binary64 → Nat → Option Binary64
  | 0, x, _ => some x
  | fuel + 1, x, n =>
    if n ≤ maxPower then x.div? (powerOfTen n)
    else if x.isZero then some x
    else do shrink fuel (← x.div? (powerOfTen maxPower)) (n - maxPower)

/-- A significand scaled by a power of ten, or nothing when the result is too large. -/
def scaled? (negative : Bool) (significand : Nat) (exponent : Int) : Option Binary64 := do
  let x ← Binary64.ofNat? false significand
  let y ← match exponent with
    | .ofNat n =>
      if n ≤ maxPower then x.mul? (powerOfTen n)
      else if x.isZero then some x
      else none
    | .negSucc n => shrink (n / maxPower + 1) x (n + 1)
  return if negative then y.neg else y

/-- The largest exponent whose digits are still counted. -/
def maxExponent : Nat := 2 ^ 31 - 1

/-- The limits within which an exponent saturates. -/
def clampExponent (e : Int) : Int := max (-2 ^ 31) (min e (2 ^ 31 - 1))

def isDigit (c : Char) : Bool := '0' ≤ c && c ≤ '9'

/-- The digits at the cursor and the place behind them. -/
def digits (c : Cursor) : List Char × Cursor := (c.rest.takeWhile isDigit, c.skipWhile isDigit)

/-- Finishes a number with a fraction or an exponent. -/
def finish (c : Cursor) (negative : Bool) (significand : Nat) (exponent : Int) :
    Except ReadError (Numeral × Cursor) :=
  (scaled? negative significand exponent).elim (c.fail .numberTooLarge) fun x => .ok (.real x, c)

/-- The exponent digits, read while the number they form is counted; `none` when it is too large,
with the place of the digit that made it so. -/
def exponentDigits (value : Nat) (c : Cursor) : List Char → Option Nat × Cursor
  | [] => (some value, c)
  | d :: rest =>
    if value * 10 + digit d ≤ maxExponent then
      exponentDigits (value * 10 + digit d) c.bump rest
    else (none, c.bump)

/-- Reads an exponent from its mark on. -/
def readExponent (c : Cursor) (negative : Bool) (significand : Nat) (exponent : Int) :
    Except ReadError (Numeral × Cursor) :=
  let c := c.bump
  let (down, c) := match c.peek? with
    | some '+' => (false, c.bump)
    | some '-' => (true, c.bump)
    | _ => (false, c)
  match c.rest with
  | [] => c.fail .endInValue
  | ch :: _ =>
    if isDigit ch then
      match exponentDigits 0 c (c.rest.takeWhile isDigit) with
      | (some e, c) =>
        let e : Int := if down then exponent - e else exponent + e
        finish c negative significand (clampExponent e)
      | (none, c) =>
        if significand ≠ 0 ∧ ¬down then c.fail .numberTooLarge
        else .ok (.real (.zero negative), (digits c).2)
    else .error ⟨.badNumber, c.peeked⟩

def isExponentMark (c : Cursor) : Bool :=
  match c.peek? with
  | some 'e' | some 'E' => true
  | _ => false

/-- Reads a fraction from its point on. -/
def readFraction (c : Cursor) (negative : Bool) (significand : Nat) (exponent : Int) :
    Except ReadError (Numeral × Cursor) :=
  let c := c.bump
  let (ds, after) := digits c
  if ds.isEmpty then
    match c.rest with
    | [] => c.refuse .endInValue
    | _ => c.refuse .badNumber
  else
    let (significand, count, _) := absorb significand ds
    let exponent := exponent - count
    if isExponentMark after then readExponent after negative significand exponent
    else finish after negative significand exponent

/-- An integer in the range of 64 bits; a negative zero and integers below the range are binary
floating point. -/
def ofSignificand (negative : Bool) (n : Nat) : Numeral :=
  if negative then
    if n = 0 ∨ n > 2 ^ 63 then
      .real ((Binary64.ofNat? true n).getD (.zero true))
    else .int (-n)
  else .int n

/-- What follows the digits of the whole part. -/
def readRest (c : Cursor) (negative : Bool) (significand : Nat) (dropped : Nat) :
    Except ReadError (Numeral × Cursor) :=
  if c.peek? = some '.' then readFraction c negative significand dropped
  else if isExponentMark c then readExponent c negative significand dropped
  else if dropped = 0 then .ok (ofSignificand negative significand, c)
  else finish c negative significand dropped

/-- Reads the digits of a number, its sign being read already. -/
def readDigits (c : Cursor) (negative : Bool) : Except ReadError (Numeral × Cursor) :=
  match c.rest with
  | [] => c.fail .endInValue
  | ch :: _ =>
    if ch = '0' then
      let c := c.bump
      match c.peek? with
      | some d => if isDigit d then c.refuse .badNumber else readRest c negative 0 0
      | none => readRest c negative 0 0
    else if isDigit ch then
      let (ds, after) := digits c
      let (significand, _, left) := absorb 0 ds
      readRest after negative significand left.length
    else .error ⟨.badNumber, c.peeked⟩

def read (c : Cursor) : Except ReadError (Numeral × Cursor) :=
  if c.peek? = some '-' then readDigits c.bump true else readDigits c false

end Numeral

end EventFeed.Json
