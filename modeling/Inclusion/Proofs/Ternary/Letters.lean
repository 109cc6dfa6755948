import Mathlib.Data.List.Basic
import Inclusion.Proofs.Ternary.Balanced
import Inclusion.Ternary.Reading

/-!
# Trytes, their digits and their letters

Three digits are one tryte and a tryte is one letter, and nothing is lost on either way. So a list
of trytes is read back from its letters, and a text that is read without a fault consists of the
letters of what was read, each of them one byte long.
-/

namespace Inclusion

namespace Tryte

/-- The digits of a tryte are those it was made from. -/
@[simp] theorem trits_ofTrits (low middle high : Trit) :
    (ofTrits low middle high).trits = [low, middle, high] := by
  cases low <;> cases middle <;> cases high <;> decide

/-- A tryte is made again of its digits. -/
theorem exists_digits (tryte : Tryte) :
    ∃ low middle high, tryte.trits = [low, middle, high] ∧ ofTrits low middle high = tryte := by
  refine ⟨_, _, _, rfl, ?_⟩
  obtain ⟨index⟩ := tryte
  revert index
  decide

/-- A letter stands for the tryte it was written for. -/
@[simp] theorem ofLetter?_letter (tryte : Tryte) : ofLetter? tryte.letter = some tryte := by
  obtain ⟨index⟩ := tryte
  revert index
  decide

theorem letter_injective : Function.Injective letter := by
  intro left right same
  exact Option.some.inj (by rw [← ofLetter?_letter left, same, ofLetter?_letter])

/-- A character that stands for a tryte is its letter. -/
theorem letter_of_ofLetter? {character : Char} {tryte : Tryte}
    (stands : ofLetter? character = some tryte) : tryte.letter = character := by
  unfold ofLetter? at stands
  split at stands
  · next nine =>
    obtain rfl := Option.some.inj stands
    exact nine.symm
  · split at stands
    · next bounds =>
      obtain rfl := Option.some.inj stands
      obtain ⟨first, last⟩ := bounds
      have present : (⟨character.toNat - 64, by omega⟩ : Fin 27) ≠ 0 := by
        intro absent
        have := congrArg Fin.val absent
        simp only [Fin.val_zero] at this
        omega
      rw [letter, if_neg present]
      have code : 64 + (character.toNat - 64) = character.toNat := by omega
      simp only [code]
      exact Char.ofNat_toNat character
    · cases stands

/-- Every letter takes one byte. -/
theorem utf8Size_letter (tryte : Tryte) : tryte.letter.utf8Size = 1 := by
  obtain ⟨index⟩ := tryte
  revert index
  decide

end Tryte

namespace Trytes

@[simp] theorem length_letters (trytes : List Tryte) :
    (letters trytes).length = trytes.length :=
  List.length_map _

theorem letters_injective : Function.Injective letters :=
  Tryte.letter_injective.list_map

/-- As many digits as fill so many trytes are the digits of so many trytes. -/
theorem exists_of_length {digits : List Trit} {width : Nat} (length : digits.length = 3 * width) :
    ∃ trytes, ofTrits? digits = some trytes ∧ trytes.length = width ∧ trits trytes = digits := by
  induction width generalizing digits with
  | zero =>
    obtain rfl := List.length_eq_zero_iff.mp length
    exact ⟨[], rfl, rfl, rfl⟩
  | succ width inductionHypothesis =>
    obtain ⟨low, middle, high, rest, rfl⟩ :
        ∃ low middle high rest, digits = low :: middle :: high :: rest := by
      match digits, length with
      | low :: middle :: high :: rest, _ => exact ⟨low, middle, high, rest, rfl⟩
    have fewer : rest.length = 3 * width := by
      simp only [List.length_cons] at length
      omega
    obtain ⟨trytes, made, counted, same⟩ := inductionHypothesis fewer
    refine ⟨Tryte.ofTrits low middle high :: trytes, ?_, ?_, ?_⟩
    · rw [ofTrits?, made, Option.map_some]
    · rw [List.length_cons, counted]
    · rw [trits, List.flatMap_cons, Tryte.trits_ofTrits, ← trits, same]
      rfl

/-- A tryte has three digits. -/
theorem length_trits (trytes : List Tryte) : (trits trytes).length = 3 * trytes.length := by
  induction trytes with
  | nil => rfl
  | cons tryte rest inductionHypothesis =>
    obtain ⟨low, middle, high, digits, -⟩ := tryte.exists_digits
    rw [trits] at inductionHypothesis
    rw [trits, List.flatMap_cons, List.length_append, inductionHypothesis, digits]
    simp only [List.length_cons, List.length_nil]
    omega

/-- Trytes are made again of their digits. -/
theorem ofTrits?_trits (trytes : List Tryte) : ofTrits? (trits trytes) = some trytes := by
  induction trytes with
  | nil => rfl
  | cons tryte rest inductionHypothesis =>
    obtain ⟨low, middle, high, digits, made⟩ := tryte.exists_digits
    rw [trits] at inductionHypothesis
    rw [trits, List.flatMap_cons, digits]
    simp only [List.cons_append, List.nil_append, ofTrits?, inductionHypothesis, Option.map_some,
      made]

/-- A number written in a field fills it, and is read from it again. -/
theorem ofInt?_eq_some {number : Int} {width : Nat} {trytes : List Tryte}
    (written : ofInt? number width = some trytes) :
    trytes.length = width ∧ value trytes = number := by
  obtain ⟨digits, expanded, made⟩ := Option.bind_eq_some_iff.mp written
  obtain ⟨-, length, stands⟩ := Trits.ofInt?_eq_some_iff.mp expanded
  obtain ⟨those, madeThose, counted, same⟩ := exists_of_length length
  obtain rfl := Option.some.inj (made.symm.trans madeThose)
  exact ⟨counted, by rw [value, same, stands]⟩

/-- What is written of the number that trytes stand for, in a field that they fill, are they
themselves. -/
theorem ofInt?_value {trytes : List Tryte} (present : 0 < trytes.length) :
    ofInt? (value trytes) trytes.length = some trytes := by
  have expanded : Trits.ofInt? (value trytes) (3 * trytes.length) = some (trits trytes) := by
    refine Trits.ofInt?_eq_some_iff.mpr ⟨?_, length_trits trytes, rfl⟩
    omega
  rw [ofInt?, expanded, Option.bind_some, ofTrits?_trits]

/-- The numbers that fit a field are those less than half of what its digits can tell apart. -/
theorem ofInt?_isSome_iff {number : Int} {width : Nat} :
    (ofInt? number width).isSome ↔ 0 < width ∧ 2 * number.natAbs < 3 ^ (3 * width) := by
  rw [ofInt?]
  constructor
  · intro written
    obtain ⟨trytes, made⟩ := Option.isSome_iff_exists.mp written
    obtain ⟨digits, expanded, -⟩ := Option.bind_eq_some_iff.mp made
    obtain ⟨places, small⟩ := Trits.ofInt?_isSome_iff.mp (Option.isSome_of_eq_some expanded)
    exact ⟨by omega, small⟩
  · rintro ⟨places, small⟩
    obtain ⟨digits, expanded⟩ := Option.isSome_iff_exists.mp
      (Trits.ofInt?_isSome_iff.mpr ⟨by omega, small⟩)
    obtain ⟨-, length, -⟩ := Trits.ofInt?_eq_some_iff.mp expanded
    obtain ⟨trytes, made, -, -⟩ := exists_of_length length
    rw [expanded, Option.bind_some, made]
    rfl

/-- Trytes are read back from their letters. -/
theorem readLetters_letters (position : Nat) (trytes : List Tryte) :
    readLetters position (letters trytes) = .ok trytes := by
  induction trytes generalizing position with
  | nil => rfl
  | cons tryte rest inductionHypothesis =>
    rw [letters, List.map_cons, ← letters, readLetters, Tryte.ofLetter?_letter]
    simp only [inductionHypothesis, Except.map]

/-- What is read without a fault is the letters of the trytes read. -/
theorem readLetters_eq_ok {position : Nat} {characters : List Char} {trytes : List Tryte}
    (read : readLetters position characters = .ok trytes) : letters trytes = characters := by
  induction characters generalizing position trytes with
  | nil =>
    cases read
    rfl
  | cons character rest inductionHypothesis =>
    rw [readLetters] at read
    split at read
    · cases read
    · next tryte stands =>
      obtain ⟨others, readOthers, rfl⟩ : ∃ others,
          readLetters (position + character.utf8Size) rest = .ok others ∧
            tryte :: others = trytes := by
        cases found : readLetters (position + character.utf8Size) rest with
        | error error => simp [found, Except.map] at read
        | ok others => exact ⟨others, rfl, by simpa [found, Except.map] using read⟩
      rw [letters, List.map_cons, Tryte.letter_of_ofLetter? stands, ← letters,
        inductionHypothesis readOthers]

/-- Letters take one byte each. -/
@[simp] theorem byteLength_letters (trytes : List Tryte) :
    byteLength (letters trytes) = trytes.length := by
  induction trytes with
  | nil => rfl
  | cons tryte rest inductionHypothesis =>
    rw [byteLength, letters, List.map_cons, List.map_cons, List.foldr_cons, ← letters, ← byteLength,
      inductionHypothesis, Tryte.utf8Size_letter, List.length_cons]
    omega

/-- A text is read as so many trytes exactly if it is the letters of so many. -/
theorem readExactly_eq_ok_iff {expected : Nat} {text : String} {trytes : List Tryte} :
    readExactly expected text = .ok trytes ↔
      text.toList = letters trytes ∧ trytes.length = expected := by
  unfold readExactly read
  constructor
  · intro read
    split at read
    · next length =>
      have same := readLetters_eq_ok read
      exact ⟨same.symm, by rw [← length, ← same, byteLength_letters]⟩
    · cases read
  · rintro ⟨same, length⟩
    rw [same, byteLength_letters, if_pos length, readLetters_letters]

end Trytes

end Inclusion
