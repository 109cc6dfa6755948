/-!
# Balanced ternary

A trit is a digit of weight minus one, zero or one. Numbers are lists of trits, least significant
first, so that a list is read by a recursion on its structure and a fixed number of places is a
length.
-/

namespace Inclusion

/-- A digit of balanced ternary. -/
inductive Trit where
  | minus
  | zero
  | plus
deriving DecidableEq, Repr, Inhabited

namespace Trit

/-- The weight of a digit in its place. -/
def toInt : Trit → Int
  | minus => -1
  | zero => 0
  | plus => 1

/-- The only digit congruent to the number modulo three. -/
def ofResidue (number : Int) : Trit :=
  if number % 3 = 0 then zero else if number % 3 = 1 then plus else minus

theorem natAbs_toInt_le (trit : Trit) : trit.toInt.natAbs ≤ 1 := by
  cases trit <;> decide

/-- The digit of a number leaves a multiple of three. -/
theorem toInt_ofResidue_add (number : Int) :
    (ofResidue number).toInt + 3 * ((number - (ofResidue number).toInt) / 3) = number := by
  unfold ofResidue
  split
  · simp only [toInt]
    omega
  · split <;> simp only [toInt] <;> omega

/-- What a number leaves without its last digit is smaller. -/
theorem natAbs_rest_lt {number : Int} (more : (number - (ofResidue number).toInt) / 3 ≠ 0) :
    ((number - (ofResidue number).toInt) / 3).natAbs < number.natAbs := by
  have digit := toInt_ofResidue_add number
  have small := (ofResidue number).natAbs_toInt_le
  omega

end Trit

namespace Trits

/-- The number a list of digits stands for. -/
def value : List Trit → Int
  | [] => 0
  | trit :: rest => trit.toInt + 3 * value rest

/-- The digits of a number in as few places as it takes, one at least. -/
def shortest (number : Int) : List Trit :=
  let trit := Trit.ofResidue number
  if (number - trit.toInt) / 3 = 0 then [trit]
  else trit :: shortest ((number - trit.toInt) / 3)
termination_by number.natAbs
decreasing_by exact Trit.natAbs_rest_lt ‹_›

/-- The digits of a number in exactly the given places, if they suffice. -/
def expand? : Int → Nat → Option (List Trit)
  | number, 0 => if number = 0 then some [] else none
  | number, places + 1 =>
    let trit := Trit.ofResidue number
    (expand? ((number - trit.toInt) / 3) places).map (trit :: ·)

/-- A number in a field of the given width. Every number takes at least one place, zero too, so
nothing fits a field without places. -/
def ofInt? (number : Int) (width : Nat) : Option (List Trit) :=
  if width = 0 then none else expand? number width

end Trits

end Inclusion
