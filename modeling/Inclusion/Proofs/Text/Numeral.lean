import Mathlib.Data.List.Induction
import Mathlib.Data.Nat.Digits.Defs
import Inclusion.Text.Numeral

/-!
# Which texts are numerals

The digits of a numeral are read from the highest to the lowest, and the first character decides
that is no digit or that takes the number to the bound. So a text is a number below the bound or has
exactly one fault, and `Denotes` says which without reading it from the left.
-/

namespace Inclusion.Text

/-- The number that digits make, the highest first. -/
def numberOf (digits : List (Fin 10)) : Nat :=
  Nat.ofDigits 10 (digits.reverse.map Fin.val)

/-- The characters of digits. -/
def written (digits : List (Fin 10)) : List Char :=
  digits.map fun digit => Nat.digitChar digit.val

/-- What characters denote if they are no more than the digits of a number below a bound, and what
is wrong with them otherwise. -/
inductive Unsigned (bound : Nat) : List Char → Except NumeralFault Nat → Prop where
  | number {digits} (small : numberOf digits < bound) :
      Unsigned bound (written digits) (.ok (numberOf digits))
  | notDigit {digits other rest} (small : numberOf digits < bound)
      (different : ∀ digit : Fin 10, other ≠ Nat.digitChar digit) :
      Unsigned bound (written digits ++ other :: rest) (.error .notDigit)
  | tooLarge {digits digit rest} (small : numberOf digits < bound)
      (large : bound ≤ numberOf (digits ++ [digit])) :
      Unsigned bound (written (digits ++ [digit]) ++ rest) (.error .tooLarge)

/-- A plus sign is left aside if anything follows it. -/
def withoutSign : List Char → List Char
  | '+' :: first :: rest => first :: rest
  | characters => characters

/-- What a text denotes. -/
inductive Denotes (bound : Nat) (text : String) : Except NumeralFault Nat → Prop where
  | empty (nothing : text.toList = []) : Denotes bound text (.error .empty)
  | unsigned {result} (present : text.toList ≠ [])
      (unsigned : Unsigned bound (withoutSign text.toList) result) : Denotes bound text result

theorem numberOf_nil : numberOf [] = 0 :=
  Nat.ofDigits_nil

theorem written_nil : written [] = [] :=
  rfl

theorem numberOf_concat (digits : List (Fin 10)) (digit : Fin 10) :
    numberOf (digits ++ [digit]) = 10 * numberOf digits + digit := by
  rw [numberOf, numberOf, List.reverse_concat, List.map_cons, Nat.ofDigits_cons, Nat.add_comm]

theorem written_concat (digits : List (Fin 10)) (digit : Fin 10) (rest : List Char) :
    written (digits ++ [digit]) ++ rest = written digits ++ Nat.digitChar digit :: rest := by
  rw [written, List.map_append, List.append_assoc]
  rfl

theorem decimalDigit?_digitChar (digit : Fin 10) :
    decimalDigit? (Nat.digitChar digit) = some digit.val := by
  revert digit
  decide

/-- A character that stands for a digit is the character of that digit. -/
theorem exists_of_decimalDigit? {character : Char} {number : Nat}
    (stands : decimalDigit? character = some number) :
    ∃ digit : Fin 10, number = digit ∧ character = Nat.digitChar digit := by
  unfold decimalDigit? at stands
  split at stands
  · next bounds =>
    obtain rfl := Option.some.inj stands
    have lower : 48 ≤ character.toNat := bounds.1
    have upper : character.toNat ≤ 57 := bounds.2
    have inside : character.toNat - 48 < 10 := by omega
    have letters : ∀ digit : Fin 10, Nat.digitChar digit = Char.ofNat (48 + digit) := by decide
    refine ⟨⟨character.toNat - 48, inside⟩, rfl, ?_⟩
    rw [letters, Nat.add_sub_cancel' lower]
    exact (Char.ofNat_toNat character).symm
  · cases stands

/-- Digits that stay below the bound are taken in. -/
theorem naturalAfter_written {bound : Nat} {digits : List (Fin 10)} (rest : List Char)
    (small : numberOf digits < bound) :
    naturalAfter bound 0 (written digits ++ rest) = naturalAfter bound (numberOf digits) rest := by
  induction digits using List.reverseRecOn generalizing rest with
  | nil => rw [numberOf_nil, written_nil, List.nil_append]
  | append_singleton digits digit inductionHypothesis =>
    have larger := numberOf_concat digits digit
    rw [written_concat, inductionHypothesis _ (by omega), naturalAfter, decimalDigit?_digitChar]
    simp only [← larger, if_pos small]

/-- What is read of characters after the digits so far. -/
theorem unsigned_naturalAfter {bound : Nat} (before : List (Fin 10)) (characters : List Char)
    (small : numberOf before < bound) :
    Unsigned bound (written before ++ characters)
      (naturalAfter bound (numberOf before) characters) := by
  induction characters generalizing before with
  | nil =>
    rw [List.append_nil]
    exact .number small
  | cons character rest inductionHypothesis =>
    rw [naturalAfter]
    split
    · next absent =>
      refine .notDigit small ?_
      rintro digit rfl
      rw [decimalDigit?_digitChar] at absent
      cases absent
    · next number stands =>
      obtain ⟨digit, rfl, rfl⟩ := exists_of_decimalDigit? stands
      rw [← numberOf_concat, ← written_concat]
      split
      · next fits => exact inductionHypothesis _ fits
      · next exceeds => exact .tooLarge small (Nat.not_lt.mp exceeds)

theorem naturalAfter_eq_iff {bound : Nat} {characters : List Char}
    {result : Except NumeralFault Nat} (positive : 0 < bound) :
    naturalAfter bound 0 characters = result ↔ Unsigned bound characters result := by
  constructor
  · rintro rfl
    have unsigned := unsigned_naturalAfter [] characters (numberOf_nil ▸ positive)
    rwa [numberOf_nil, written_nil, List.nil_append] at unsigned
  · intro unsigned
    cases unsigned with
    | @number digits small =>
      rw [← List.append_nil (written digits), naturalAfter_written [] small]
      rfl
    | @notDigit digits other rest small different =>
      have absent : decimalDigit? other = none := by
        refine Option.eq_none_iff_forall_ne_some.mpr fun number stands => ?_
        obtain ⟨digit, -, same⟩ := exists_of_decimalDigit? stands
        exact different digit same
      rw [naturalAfter_written _ small, naturalAfter, absent]
    | @tooLarge digits digit rest small large =>
      rw [written_concat, naturalAfter_written _ small, naturalAfter, decimalDigit?_digitChar]
      simp only [← numberOf_concat, if_neg (Nat.not_lt.mpr large)]

/-- A text is read as what it denotes. -/
theorem readNatural_eq_iff {bound : Nat} {text : String} {result : Except NumeralFault Nat}
    (positive : 0 < bound) : readNatural bound text = result ↔ Denotes bound text result := by
  have read : text.toList ≠ [] →
      readNatural bound text = naturalAfter bound 0 (withoutSign text.toList) := by
    intro present
    unfold readNatural
    split
    · next nothing => exact absurd nothing present
    · next sign =>
      rw [sign]
      rfl
    · next unsigned =>
      rw [withoutSign]
      exact unsigned
  constructor
  · rintro rfl
    by_cases nothing : text.toList = []
    · rw [readNatural, nothing]
      exact .empty nothing
    · rw [read nothing]
      exact .unsigned nothing ((naturalAfter_eq_iff positive).mp rfl)
  · intro denotes
    cases denotes with
    | empty nothing => rw [readNatural, nothing]
    | unsigned present unsigned =>
      rw [read present]
      exact (naturalAfter_eq_iff positive).mpr unsigned

end Inclusion.Text
