import Mathlib.Algebra.Group.Nat.Defs
import Inclusion.Proofs.Ternary.Letters

/-!
# Positions in bytes

Lengths and positions of a text are counted in bytes of UTF-8, and a text can be cut only between
two of its characters. A letter takes one byte, so a text of letters can be cut anywhere; any other
text is refused before it is cut, at its first character that is no letter.
-/

namespace Inclusion.Trytes

@[simp] theorem byteLength_nil : byteLength [] = 0 :=
  rfl

@[simp] theorem byteLength_cons (character : Char) (rest : List Char) :
    byteLength (character :: rest) = character.utf8Size + byteLength rest :=
  rfl

@[simp] theorem byteLength_append (front back : List Char) :
    byteLength (front ++ back) = byteLength front + byteLength back := by
  induction front with
  | nil => simp
  | cons character rest inductionHypothesis =>
    rw [List.cons_append, byteLength_cons, byteLength_cons, inductionHypothesis, Nat.add_assoc]

@[simp] theorem byteLength_nines (count : Nat) :
    byteLength (List.replicate count '9') = count := by
  have one_byte : Char.utf8Size '9' = 1 := rfl
  induction count with
  | zero => rfl
  | succ count inductionHypothesis =>
    rw [List.replicate_succ, byteLength_cons, inductionHypothesis, one_byte, Nat.add_comm]

/-- Every character takes a byte. -/
theorem byteLength_eq_zero_iff {characters : List Char} :
    byteLength characters = 0 ↔ characters = [] := by
  cases characters with
  | nil => simp
  | cons character rest =>
    have := character.utf8Size_pos
    simp only [byteLength_cons, reduceCtorEq, iff_false]
    omega

/-- A text that was filled up takes the bytes asked for, or more where what was kept of it does. -/
theorem byteLength_padLetters (length : Nat) (characters : List Char) :
    byteLength (padLetters length characters) =
      max length (byteLength (characters.take length)) := by
  rw [padLetters, byteLength_append, byteLength_nines]
  omega

/-- It never takes less. -/
theorem exists_byteLength_padLetters (length : Nat) (characters : List Char) :
    ∃ extra, byteLength (padLetters length characters) = length + extra := by
  refine Nat.exists_eq_add_of_le ?_
  rw [byteLength_padLetters]
  exact Nat.le_max_left _ _

/-- A text cut after the given number of bytes. There is no such place beyond its end, nor between
the bytes of one character. -/
def cutAfter? : Nat → List Char → Option (List Char × List Char)
  | 0, characters => some ([], characters)
  | _ + 1, [] => none
  | bytes + 1, character :: rest =>
    if character.utf8Size ≤ bytes + 1 then
      (cutAfter? (bytes + 1 - character.utf8Size) rest).map fun (front, back) =>
        (character :: front, back)
    else none

/-- A text is cut where its first part takes as many bytes as asked for, and nowhere else. -/
theorem cutAfter?_eq_some_iff {bytes : Nat} {characters front back : List Char} :
    cutAfter? bytes characters = some (front, back) ↔
      characters = front ++ back ∧ byteLength front = bytes := by
  induction characters generalizing bytes front with
  | nil => cases bytes <;> cases front <;> simp [cutAfter?, eq_comm]
  | cons character rest inductionHypothesis =>
    cases bytes with
    | zero =>
      rw [cutAfter?, byteLength_eq_zero_iff]
      cases front <;> simp [eq_comm]
    | succ bytes =>
      rw [cutAfter?]
      constructor
      · intro cut
        split at cut
        · next room =>
          obtain ⟨⟨others, _⟩, cutOthers, same⟩ := Option.map_eq_some_iff.mp cut
          obtain ⟨rfl, rfl⟩ := Prod.mk.inj same
          obtain ⟨rfl, length⟩ := inductionHypothesis.mp cutOthers
          refine ⟨rfl, ?_⟩
          rw [byteLength_cons, length]
          omega
        · cases cut
      · rintro ⟨same, length⟩
        cases front with
        | nil => cases length
        | cons first others =>
          obtain ⟨rfl, rfl⟩ := List.cons.inj same
          rw [byteLength_cons] at length
          have := character.utf8Size_pos
          rw [if_pos (by omega)]
          exact Option.map_eq_some_iff.mpr
            ⟨(others, back), inductionHypothesis.mpr ⟨rfl, by omega⟩, rfl⟩

/-- Letters are cut after every one of them. -/
theorem cutAfter?_letters {bytes : Nat} {trytes : List Tryte} (inside : bytes ≤ trytes.length) :
    cutAfter? bytes (letters trytes) =
      some (letters (trytes.take bytes), letters (trytes.drop bytes)) := by
  refine cutAfter?_eq_some_iff.mpr ⟨?_, ?_⟩
  · rw [letters, letters, letters, ← List.map_append, List.take_append_drop]
  · rw [byteLength_letters, List.length_take, Nat.min_eq_left inside]

/-- The first character of a text that is no letter, and the bytes that precede it. -/
def FirstFault (characters : List Char) (position : Nat) (fault : Char) : Prop :=
  ∃ before after, characters = before ++ fault :: after ∧
    (∀ character ∈ before, Tryte.isLetter character) ∧ ¬ Tryte.isLetter fault ∧
    byteLength before = position

/-- A text begins with its first fault, or with a letter that its first fault comes after. -/
theorem firstFault_cons_iff {character fault : Char} {rest : List Char} {position : Nat} :
    FirstFault (character :: rest) position fault ↔
      (¬ Tryte.isLetter character ∧ position = 0 ∧ fault = character) ∨
      (Tryte.isLetter character ∧ ∃ offset, FirstFault rest offset fault ∧
        position = character.utf8Size + offset) := by
  constructor
  · rintro ⟨before, after, same, letters, spoils, rfl⟩
    cases before with
    | nil =>
      obtain ⟨rfl, rfl⟩ := List.cons.inj same
      exact .inl ⟨spoils, rfl, rfl⟩
    | cons first others =>
      obtain ⟨rfl, rfl⟩ := List.cons.inj same
      obtain ⟨isLetter, letters⟩ := List.forall_mem_cons.mp letters
      exact .inr ⟨isLetter, _, ⟨others, after, rfl, letters, spoils, rfl⟩, rfl⟩
  · rintro (⟨spoils, rfl, rfl⟩ | ⟨isLetter, _, ⟨before, after, rfl, letters, spoils, rfl⟩, rfl⟩)
    · exact ⟨[], rest, rfl, by simp, spoils, rfl⟩
    · exact ⟨character :: before, after, rfl, List.forall_mem_cons.mpr ⟨isLetter, letters⟩,
        spoils, rfl⟩

/-- Reading fails exactly at the first fault. -/
theorem readLetters_eq_error_iff {start : Nat} {characters : List Char} {error : TrytesError} :
    readLetters start characters = .error error ↔
      ∃ position fault, FirstFault characters position fault ∧
        error = .invalidTryte (start + position) fault := by
  induction characters generalizing start with
  | nil => simp [readLetters, FirstFault]
  | cons character rest inductionHypothesis =>
    rw [readLetters]
    split
    · next absent =>
      have spoils : ¬ Tryte.isLetter character := by simp [Tryte.isLetter, absent]
      simp [firstFault_cons_iff, spoils, eq_comm]
    · next tryte stands =>
      have isLetter : Tryte.isLetter character := by simp [Tryte.isLetter, stands]
      have others : (readLetters (start + character.utf8Size) rest).map (tryte :: ·) =
          .error error ↔ readLetters (start + character.utf8Size) rest = .error error := by
        cases readLetters (start + character.utf8Size) rest <;> simp [Except.map]
      rw [others, inductionHypothesis]
      simp only [firstFault_cons_iff, isLetter, not_true_eq_false, false_and, false_or, true_and]
      constructor
      · rintro ⟨position, fault, first, rfl⟩
        exact ⟨_, fault, ⟨position, first, rfl⟩, by rw [Nat.add_assoc]⟩
      · rintro ⟨_, fault, ⟨position, first, rfl⟩, rfl⟩
        exact ⟨position, fault, first, by rw [Nat.add_assoc]⟩

/-- A text is refused for its length in bytes, and only if that is right for its first fault. -/
theorem readExactly_eq_error_iff {expected : Nat} {text : String} {error : TrytesError} :
    readExactly expected text = .error error ↔
      (byteLength text.toList ≠ expected ∧
        error = .length expected (byteLength text.toList)) ∨
      (byteLength text.toList = expected ∧ ∃ position fault,
        FirstFault text.toList position fault ∧ error = .invalidTryte position fault) := by
  unfold readExactly read
  split
  · next right =>
    simp [readLetters_eq_error_iff, right]
  · next wrong => simp [wrong, eq_comm]

end Inclusion.Trytes
