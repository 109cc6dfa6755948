/-!
# Numerals

Natural numbers below a bound, written in decimal digits with at most one plus sign before them.
The first character that rules a text out decides what is wrong with it: a digit that takes the
number to the bound is noticed before anything that comes after it.
-/

namespace Inclusion.Text

/-- Why a text is no number below the bound. -/
inductive NumeralFault where
  | empty
  | notDigit
  | tooLarge
deriving DecidableEq, Repr

/-- The wording of each fault. -/
def NumeralFault.message : NumeralFault → String
  | empty => "cannot parse integer from empty string"
  | notDigit => "invalid digit found in string"
  | tooLarge => "number too large to fit in target type"

/-- The value of a decimal digit. -/
def decimalDigit? (character : Char) : Option Nat :=
  if '0' ≤ character ∧ character ≤ '9' then some (character.toNat - '0'.toNat) else none

/-- The number whose first digits make `number`. -/
def naturalAfter (bound number : Nat) : List Char → Except NumeralFault Nat
  | [] => .ok number
  | character :: rest =>
    match decimalDigit? character with
    | none => .error .notDigit
    | some digit =>
      if 10 * number + digit < bound then naturalAfter bound (10 * number + digit) rest
      else .error .tooLarge

/-- The number below the bound that a text writes. A sign alone is taken for a character that is no
digit. -/
def readNatural (bound : Nat) (text : String) : Except NumeralFault Nat :=
  match text.toList with
  | [] => .error .empty
  | '+' :: first :: rest => naturalAfter bound 0 (first :: rest)
  | characters => naturalAfter bound 0 characters

end Inclusion.Text
