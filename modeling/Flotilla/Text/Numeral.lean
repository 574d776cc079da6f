/-!
# Decimal numerals

A setting that is a number is an optional plus sign and one or more digits.
The value may not pass a bound.  The digits are read from the left, and the
first place where something is wrong names the problem: a character that is no
digit there, or a value that has passed the bound.
-/

namespace Flotilla.Text

/-- What is wrong with a numeral. -/
inductive NumeralFault where
  /-- There is no character at all. -/
  | empty
  /-- A character is no digit. -/
  | invalidDigit
  /-- The value passes the bound. -/
  | tooLarge
deriving Repr, DecidableEq

/-- The wording. -/
def NumeralFault.message : NumeralFault → String
  | .empty => "cannot parse integer from empty string"
  | .invalidDigit => "invalid digit found in string"
  | .tooLarge => "number too large to fit in target type"

/-- The value of a decimal digit. -/
def digitValue (c : Char) : Option Nat :=
  if '0' ≤ c ∧ c ≤ '9' then some (c.toNat - 48) else none

/-- The value of digits read after `value`, not above `bound`. -/
def digitsValue (bound : Nat) (value : Nat) : List Char → Except NumeralFault Nat
  | [] => .ok value
  | c :: cs =>
    match digitValue c with
    | none => .error .invalidDigit
    | some d =>
      if value * 10 + d ≤ bound then digitsValue bound (value * 10 + d) cs
      else .error .tooLarge

/-- The value of a numeral, not above `bound`. -/
def numeral (bound : Nat) : List Char → Except NumeralFault Nat
  | [] => .error .empty
  | ['+'] => .error .invalidDigit
  | '+' :: digits => digitsValue bound 0 digits
  | digits => digitsValue bound 0 digits

example : numeral 255 "+007".toList = .ok 7 := by rfl
example : numeral 255 "256x".toList = .error .tooLarge := by rfl
example : numeral 255 "25x6".toList = .error .invalidDigit := by rfl
example : numeral 255 "-0".toList = .error .invalidDigit := by rfl

end Flotilla.Text
