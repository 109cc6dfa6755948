import Mathlib.Algebra.Group.Nat.Defs
import Inclusion.Ternary.Trit

/-!
# Numbers in balanced ternary

In a given number of places every number has one expansion at most, and it has one exactly if it is
less than half of what as many places of ordinary ternary can tell apart. So the digits of a number
stand for it, and no other digits of the same width do.
-/

namespace Inclusion

namespace Trit

/-- A digit in front of a multiple of three is found again. -/
theorem ofResidue_toInt_add (trit : Trit) (rest : Int) :
    ofResidue (trit.toInt + 3 * rest) = trit := by
  have residue : (trit.toInt + 3 * rest) % 3 = trit.toInt % 3 := by omega
  rw [ofResidue, residue]
  cases trit <;> rfl

end Trit

namespace Trits

/-- The expansion of a number is the only list of digits of that width that stands for it. -/
theorem expand?_eq_some_iff {number : Int} {width : Nat} {trits : List Trit} :
    expand? number width = some trits ↔ trits.length = width ∧ value trits = number := by
  induction width generalizing number trits with
  | zero =>
    cases trits with
    | nil => simp [expand?, value, eq_comm]
    | cons => simp [expand?]
  | succ width inductionHypothesis =>
    have digit := Trit.toInt_ofResidue_add number
    constructor
    · intro expanded
      obtain ⟨rest, expands, rfl⟩ := Option.map_eq_some_iff.mp expanded
      obtain ⟨length, stands⟩ := inductionHypothesis.mp expands
      exact ⟨by rw [List.length_cons, length], by rw [value, stands, digit]⟩
    · rintro ⟨length, stands⟩
      cases trits with
      | nil => simp at length
      | cons trit rest =>
        obtain rfl : Trit.ofResidue number = trit := by
          rw [← stands, value, Trit.ofResidue_toInt_add]
        refine Option.map_eq_some_iff.mpr ⟨rest, inductionHypothesis.mpr ⟨?_, ?_⟩, rfl⟩
        · simpa using length
        · rw [value] at stands
          omega

/-- The powers of three are odd. -/
theorem three_pow_odd (width : Nat) : 3 ^ width % 2 = 1 := by
  rw [Nat.pow_mod]
  simp

/-- A number has an expansion exactly if it is less than half a power of three. -/
theorem expand?_isSome_iff {number : Int} {width : Nat} :
    (expand? number width).isSome ↔ 2 * number.natAbs < 3 ^ width := by
  induction width generalizing number with
  | zero =>
    rw [expand?, Nat.pow_zero]
    split
    · next nothing => simp [nothing]
    · next something =>
      simp only [Option.isSome_none, Bool.false_eq_true, false_iff]
      omega
  | succ width inductionHypothesis =>
    have digit := Trit.toInt_ofResidue_add number
    have small := (Trit.ofResidue number).natAbs_toInt_le
    have odd := three_pow_odd width
    rw [expand?, Option.isSome_map, inductionHypothesis, Nat.pow_succ]
    omega

/-- What fits a field is expanded in it, and nothing fits a field without places. -/
theorem ofInt?_eq_some_iff {number : Int} {width : Nat} {trits : List Trit} :
    ofInt? number width = some trits ↔
      0 < width ∧ trits.length = width ∧ value trits = number := by
  unfold ofInt?
  split
  · next none_there => simp [none_there]
  · next places =>
    rw [expand?_eq_some_iff]
    exact (and_iff_right (Nat.pos_of_ne_zero places)).symm

theorem ofInt?_isSome_iff {number : Int} {width : Nat} :
    (ofInt? number width).isSome ↔ 0 < width ∧ 2 * number.natAbs < 3 ^ width := by
  unfold ofInt?
  split
  · next none_there => simp [none_there]
  · next places =>
    rw [expand?_isSome_iff]
    exact (and_iff_right (Nat.pos_of_ne_zero places)).symm

end Trits

end Inclusion
