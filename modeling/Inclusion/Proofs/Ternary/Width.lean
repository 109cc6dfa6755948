import Mathlib.Algebra.BigOperators.Fin
import Inclusion.Proofs.Ternary.Balanced
import Inclusion.Ternary.Reading

/-!
# How many places a number takes

The digits that are worked out of a number one after another are as few as any digits that stand for
it, so filling them up with zeros reaches every width that the number fits and no other. What comes
out is the expansion of that width, and there is only one.
-/

namespace Inclusion.Trits

/-- Every digit counts with the power of three that belongs to its place. -/
theorem value_eq_sum (digits : List Trit) :
    value digits = ∑ place : Fin digits.length, digits[place].toInt * 3 ^ place.val := by
  induction digits with
  | nil => rfl
  | cons digit rest inductionHypothesis =>
    have shifted : ∀ place : Fin rest.length,
        rest[place].toInt * 3 ^ (place.val + 1) = 3 * (rest[place].toInt * 3 ^ place.val) := by
      intro place
      rw [Int.pow_succ, ← Int.mul_assoc, Int.mul_comm]
    rw [value, inductionHypothesis, Finset.mul_sum]
    simp only [List.length_cons, Fin.sum_univ_succ, Fin.getElem_fin, Fin.val_zero, Fin.val_succ,
      List.getElem_cons_zero, List.getElem_cons_succ, Int.pow_zero, Int.mul_one]
    exact congrArg (digit.toInt + ·) (Finset.sum_congr rfl fun place _ => (shifted place).symm)

theorem value_zeros (count : Nat) : value (List.replicate count .zero) = 0 := by
  induction count with
  | zero => rfl
  | succ count inductionHypothesis =>
    rw [List.replicate_succ, value, inductionHypothesis]
    rfl

/-- Zeros in the highest places do not count. -/
theorem value_append_zeros (digits : List Trit) (count : Nat) :
    value (digits ++ List.replicate count .zero) = value digits := by
  induction digits with
  | nil => exact value_zeros count
  | cons digit rest inductionHypothesis =>
    rw [List.cons_append, value, value, inductionHypothesis]

/-- The digits of a number stand for it. -/
theorem value_shortest (number : Int) : value (shortest number) = number := by
  fun_induction shortest number with
  | case1 number digit last =>
    rw [value, value, ← last]
    exact Trit.toInt_ofResidue_add number
  | case2 number digit more inductionHypothesis =>
    rw [value, inductionHypothesis]
    exact Trit.toInt_ofResidue_add number

theorem shortest_ne_nil (number : Int) : shortest number ≠ [] := by
  fun_cases shortest number <;> exact List.cons_ne_nil _ _

/-- No digits that stand for a number are fewer. -/
theorem length_shortest_value_le {digits : List Trit} (present : digits ≠ []) :
    (shortest (value digits)).length ≤ digits.length := by
  induction digits with
  | nil => exact absurd rfl present
  | cons digit rest inductionHypothesis =>
    have lowest : Trit.ofResidue (value (digit :: rest)) = digit :=
      Trit.ofResidue_toInt_add digit (value rest)
    have others : (value (digit :: rest) - digit.toInt) / 3 = value rest := by
      rw [value]
      omega
    rw [shortest, lowest, others]
    split
    · simp
    · next more =>
      have later : rest ≠ [] := by
        rintro rfl
        exact more rfl
      exact Nat.succ_le_succ (inductionHypothesis later)

/-- The digits of a number fit a width exactly if the number does. -/
theorem length_shortest_le_iff {number : Int} {width : Nat} :
    (shortest number).length ≤ width ↔ 0 < width ∧ 2 * number.natAbs < 3 ^ width := by
  rw [← ofInt?_isSome_iff, Option.isSome_iff_exists]
  simp only [ofInt?_eq_some_iff]
  constructor
  · intro fits
    have present := List.length_pos_iff.mpr (shortest_ne_nil number)
    refine ⟨shortest number ++ List.replicate (width - (shortest number).length) .zero,
      Nat.lt_of_lt_of_le present fits, ?_, ?_⟩
    · rw [List.length_append, List.length_replicate, Nat.add_sub_cancel' fits]
    · rw [value_append_zeros, value_shortest]
  · rintro ⟨digits, places, rfl, rfl⟩
    exact length_shortest_value_le (List.length_pos_iff.mp places)

/-- Filling the digits of a number up with zeros makes its expansion. -/
theorem write_eq_ok_iff {number : Int} {width : Nat} {digits : List Trit} :
    write number width = .ok digits ↔
      0 < width ∧ digits.length = width ∧ value digits = number := by
  rw [← ofInt?_eq_some_iff, write]
  split
  · next long =>
    have absent : ofInt? number width = none := by
      rw [← Option.not_isSome_iff_eq_none, ofInt?_isSome_iff, ← length_shortest_le_iff]
      exact Nat.not_le.mpr long
    simp [absent]
  · next fits =>
    have fits := Nat.not_lt.mp fits
    obtain ⟨places, -⟩ := length_shortest_le_iff.mp fits
    have expanded : ofInt? number width =
        some (shortest number ++ List.replicate (width - (shortest number).length) .zero) := by
      refine ofInt?_eq_some_iff.mpr ⟨places, ?_, ?_⟩
      · rw [List.length_append, List.length_replicate, Nat.add_sub_cancel' fits]
      · rw [value_append_zeros, value_shortest]
    rw [expanded, Except.ok.injEq, Option.some.injEq]

theorem exists_write_iff {number : Int} {width : Nat} :
    (∃ digits, write number width = .ok digits) ↔
      1 ≤ width ∧ number.natAbs ≤ (3 ^ width - 1) / 2 := by
  have half : 2 * number.natAbs < 3 ^ width ↔ number.natAbs ≤ (3 ^ width - 1) / 2 := by
    have := Nat.pow_pos (n := width) (show 0 < 3 by decide)
    omega
  simp only [write_eq_ok_iff, ← ofInt?_eq_some_iff]
  rw [← Option.isSome_iff_exists, ofInt?_isSome_iff, half]
  exact Iff.rfl

/-- Only a number that is too large is refused, and it is told. -/
theorem write_eq_error_iff {number : Int} {width : Nat} {error : TrytesError} :
    write number width = .error error ↔
      ¬ (1 ≤ width ∧ number.natAbs ≤ (3 ^ width - 1) / 2) ∧ error = .overflow number := by
  rw [← exists_write_iff]
  fun_cases write number width with
  | case1 digits long => simp [eq_comm]
  | case2 digits fits => simp

/-- A number is written in as many places as are asked for exactly if there is a place and the
number is not beyond half of the greatest number of as many places in ordinary ternary. What is
written are that many digits, the lowest first, which add up to the number with the powers of three
that belong to their places, and no other digits of the width do. A number that is not written is
told in the fault. The digits are those that fill the fields of a transaction. -/
theorem write_exact (number : Int) (width : Nat) :
    ((∃ digits, write number width = .ok digits) ↔
      1 ≤ width ∧ number.natAbs ≤ (3 ^ width - 1) / 2) ∧
    (∀ digits : List Trit, write number width = .ok digits ↔
      1 ≤ width ∧ digits.length = width ∧
        number = ∑ place : Fin digits.length, digits[place].toInt * 3 ^ place.val) ∧
    (∀ error, write number width = .error error ↔
      ¬ (1 ≤ width ∧ number.natAbs ≤ (3 ^ width - 1) / 2) ∧ error = .overflow number) ∧
    ofInt? number width = (write number width).toOption := by
  refine ⟨exists_write_iff, fun digits => ?_, fun _ => write_eq_error_iff, ?_⟩
  · rw [write_eq_ok_iff, value_eq_sum, eq_comm (a := number)]
    rfl
  · refine Option.ext fun digits => ?_
    rw [ofInt?_eq_some_iff, ← write_eq_ok_iff]
    cases write number width <;> simp [Except.toOption]

example : write 2 3 = .ok [.minus, .plus, .zero] := by cbv

example : write 14 3 = .error (.overflow 14) := by cbv

end Inclusion.Trits
