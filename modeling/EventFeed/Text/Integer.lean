/-! # Unsigned integers in text

A plus sign may stand in front; every other character is a decimal digit. The first character that
does not fit, or that makes the number too large, decides the fault.
-/

namespace EventFeed.Text

inductive IntegerFault where
  | empty
  | invalidDigit
  | tooLarge
  deriving DecidableEq, Repr

def IntegerFault.message : IntegerFault → String
  | empty => "cannot parse integer from empty string"
  | invalidDigit => "invalid digit found in string"
  | tooLarge => "number too large to fit in target type"

/-- Appends decimal digits to a number below a limit. -/
def appendDigits (limit : Nat) (n : Nat) : List Char → Except IntegerFault Nat
  | [] => .ok n
  | c :: rest =>
    if '0' ≤ c ∧ c ≤ '9' then
      let n := n * 10 + (c.toNat - '0'.toNat)
      if n < limit then appendDigits limit n rest else .error .tooLarge
    else .error .invalidDigit

/-- The number below `limit` that a text denotes. -/
def parseUnsigned (limit : Nat) (s : String) : Except IntegerFault Nat :=
  match s.toList with
  | [] => .error .empty
  | ['+'] => .error .invalidDigit
  | '+' :: digits => appendDigits limit 0 digits
  | digits => appendDigits limit 0 digits

end EventFeed.Text
