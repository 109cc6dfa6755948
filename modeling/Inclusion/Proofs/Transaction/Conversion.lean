import Inclusion.Proofs.Transaction.Decoding

/-!
# Texts and digits

A text of trytes and the digits it writes are found from each other: `readTrits` and `Trits.text?`
are the same relation, read in its two directions. The relation follows the concatenation of texts,
so what stands in a field is the same whether the field is cut out of the text or its digits are cut
out of all digits.
-/

namespace Inclusion

/-- The letters of trytes, in the order of the numbers they are kept as. -/
def Tryte.alphabet : List Char :=
  ['9', 'A', 'B', 'C', 'D', 'E', 'F', 'G', 'H', 'I', 'J', 'K', 'L', 'M', 'N', 'O', 'P', 'Q', 'R',
    'S', 'T', 'U', 'V', 'W', 'X', 'Y', 'Z']

/-- The alphabet is the letters of all trytes. -/
theorem Tryte.alphabet_eq : alphabet = (List.finRange 27).map fun index => letter ⟨index⟩ := by
  decide

theorem Tryte.isLetter_iff {character : Char} : isLetter character ↔ character ∈ alphabet := by
  rw [alphabet_eq, List.mem_map, isLetter, Option.isSome_iff_exists]
  constructor
  · rintro ⟨⟨index⟩, stands⟩
    exact ⟨index, List.mem_finRange index, letter_of_ofLetter? stands⟩
  · rintro ⟨index, -, rfl⟩
    exact ⟨⟨index⟩, ofLetter?_letter _⟩

namespace Trytes

theorem toList_text (trytes : List Tryte) : (text trytes).toList = letters trytes :=
  String.toList_ofList

theorem length_text (trytes : List Tryte) : (text trytes).length = trytes.length := by
  rw [← String.length_toList, toList_text, length_letters]

theorem text_append (left right : List Tryte) : text (left ++ right) = text left ++ text right := by
  rw [text, letters, List.map_append, String.ofList_append]
  rfl

theorem trits_append (left right : List Tryte) :
    trits (left ++ right) = trits left ++ trits right :=
  List.flatMap_append

/-- A text is read as the trytes whose letters it is. -/
theorem read_eq_ok_iff {written : String} {trytes : List Tryte} :
    read written = .ok trytes ↔ written = text trytes := by
  rw [← String.toList_inj, toList_text]
  constructor
  · intro accepted
    exact (readLetters_eq_ok accepted).symm
  · intro same
    rw [read, same, readLetters_letters]

/-- Digits are made into the trytes whose digits they are. -/
theorem ofTrits?_eq_some_iff {digits : List Trit} {trytes : List Tryte} :
    ofTrits? digits = some trytes ↔ trits trytes = digits := by
  constructor
  · intro made
    fun_induction ofTrits? digits generalizing trytes with
    | case1 =>
      obtain rfl := Option.some.inj made
      rfl
    | case2 low middle high rest inductionHypothesis =>
      obtain ⟨others, madeOthers, rfl⟩ := Option.map_eq_some_iff.mp made
      rw [trits, List.flatMap_cons, Tryte.trits_ofTrits, ← trits, inductionHypothesis madeOthers]
      rfl
    | case3 => cases made
  · rintro rfl
    exact ofTrits?_trits trytes

theorem readTrits_eq_ok_iff {written : String} {digits : List Trit} :
    readTrits written = .ok digits ↔
      ∃ trytes, written = text trytes ∧ trits trytes = digits := by
  simp only [← read_eq_ok_iff]
  rw [readTrits]
  cases read written <;> simp [Except.map]

end Trytes

namespace Trits

theorem text?_eq_some_iff {digits : List Trit} {text : String} :
    text? digits = some text ↔
      ∃ trytes, text = Trytes.text trytes ∧ Trytes.trits trytes = digits := by
  rw [text?, Option.map_eq_some_iff]
  simp only [Trytes.ofTrits?_eq_some_iff]
  constructor
  · rintro ⟨trytes, same, rfl⟩
    exact ⟨trytes, rfl, same⟩
  · rintro ⟨trytes, rfl, same⟩
    exact ⟨trytes, same, rfl⟩

end Trits

namespace Trytes

/-- Reading and packing are the same relation. -/
theorem readTrits_eq_ok_iff_text? {written : String} {digits : List Trit} :
    readTrits written = .ok digits ↔ Trits.text? digits = some written := by
  rw [readTrits_eq_ok_iff, Trits.text?_eq_some_iff]

theorem length_of_readTrits {written : String} {digits : List Trit}
    (accepted : readTrits written = .ok digits) : digits.length = 3 * written.length := by
  obtain ⟨trytes, rfl, rfl⟩ := readTrits_eq_ok_iff.mp accepted
  rw [length_trits, length_text]

/-- Digits are packed exactly if they are as many as some trytes have. -/
theorem exists_text?_iff {digits : List Trit} :
    (∃ written, Trits.text? digits = some written) ↔ 3 ∣ digits.length := by
  constructor
  · rintro ⟨written, packed⟩
    rw [length_of_readTrits (readTrits_eq_ok_iff_text?.mpr packed)]
    exact Nat.dvd_mul_right 3 _
  · rintro ⟨width, length⟩
    obtain ⟨trytes, made, -⟩ := exists_of_length length
    exact ⟨text trytes, by rw [Trits.text?, made, Option.map_some]⟩

/-- A text is read exactly if all its characters are letters. -/
theorem exists_readTrits_iff {written : String} :
    (∃ digits, readTrits written = .ok digits) ↔
      ∀ character ∈ written.toList, character ∈ Tryte.alphabet := by
  simp only [readTrits_eq_ok_iff, ← Tryte.isLetter_iff]
  constructor
  · rintro ⟨_, trytes, rfl, -⟩
    rw [toList_text]
    exact areLetters_letters trytes
  · intro areLetters
    obtain ⟨trytes, same⟩ := exists_letters areLetters
    refine ⟨_, trytes, ?_, rfl⟩
    rw [text, same, String.ofList_toList]

/-- The digits of a letter stand for its place in the alphabet, counted backwards from the end in
the second half. -/
theorem exists_readTrits_letter {place : Nat} (inside : place < Tryte.alphabet.length) :
    ∃ digits, readTrits (String.singleton Tryte.alphabet[place]) = .ok digits ∧
      Trits.value digits = if place ≤ 13 then (place : Int) else place - 27 := by
  have all : ∀ index : Fin 27, Tryte.alphabet[index] = Tryte.letter ⟨index⟩ ∧
      Trits.value (Tryte.trits ⟨index⟩) =
        if index.val ≤ 13 then (index.val : Int) else index.val - 27 := by decide
  obtain ⟨same, stands⟩ := all ⟨place, inside⟩
  refine ⟨Tryte.trits ⟨⟨place, inside⟩⟩, ?_, stands⟩
  refine readTrits_eq_ok_iff.mpr ⟨[⟨⟨place, inside⟩⟩], ?_, ?_⟩
  · rw [← String.toList_inj, toList_text, String.toList_singleton]
    exact congrArg (fun character => [character]) same
  · exact List.append_nil _

/-- Texts are read one after the other. -/
theorem readTrits_append {left right : String} {digits : List Trit} :
    readTrits (left ++ right) = .ok digits ↔
      ∃ front back, readTrits left = .ok front ∧ readTrits right = .ok back ∧
        digits = front ++ back := by
  simp only [readTrits_eq_ok_iff]
  constructor
  · rintro ⟨trytes, same, rfl⟩
    rw [← String.toList_inj, toList_text, String.toList_append] at same
    obtain ⟨lefts, rights, rfl, first, second⟩ := List.map_eq_append_iff.mp same.symm
    refine ⟨_, _, ⟨lefts, ?_, rfl⟩, ⟨rights, ?_, rfl⟩, trits_append lefts rights⟩
    · rw [← String.toList_inj, toList_text]
      exact first.symm
    · rw [← String.toList_inj, toList_text]
      exact second.symm
  · rintro ⟨_, _, ⟨lefts, rfl, rfl⟩, ⟨rights, rfl, rfl⟩, rfl⟩
    exact ⟨lefts ++ rights, (text_append lefts rights).symm, trits_append lefts rights⟩

theorem trits_drop (count : Nat) (trytes : List Tryte) :
    trits (trytes.drop count) = (trits trytes).drop (3 * count) := by
  induction count generalizing trytes with
  | zero => rfl
  | succ count inductionHypothesis =>
    cases trytes with
    | nil => simp [trits]
    | cons tryte rest =>
      obtain ⟨low, middle, high, digits, -⟩ := tryte.exists_digits
      have three : trits (tryte :: rest) = low :: middle :: high :: trits rest := by
        rw [trits, List.flatMap_cons, digits]
        rfl
      rw [three, List.drop_succ_cons, inductionHypothesis]
      rfl

theorem trits_take (count : Nat) (trytes : List Tryte) :
    trits (trytes.take count) = (trits trytes).take (3 * count) := by
  have whole := trits_append (trytes.take count) (trytes.drop count)
  rw [List.take_append_drop, trits_drop] at whole
  exact (List.append_cancel_right ((List.take_append_drop _ _).trans whole)).symm

/-- The digits of a field are found at its place among all digits. -/
theorem trits_slice (field : Field) (trytes : List Tryte) :
    trits (field.slice trytes) =
      ((trits trytes).drop (3 * field.first)).take (3 * field.width) := by
  rw [Field.slice, trits_take, trits_drop]

/-- A field can be cut out of every text of trytes that reaches as far, and what is cut out writes
those digits that stand in its place. -/
theorem exists_cut? {field : Field} {written : String} {digits : List Trit}
    (accepted : readTrits written = .ok digits) (order : field.first ≤ field.last)
    (inside : field.last ≤ written.length) :
    ∃ part, field.cut? written = some part ∧
      readTrits part = .ok ((digits.drop (3 * field.first)).take (3 * field.width)) := by
  obtain ⟨trytes, rfl, rfl⟩ := readTrits_eq_ok_iff.mp accepted
  rw [length_text] at inside
  exact ⟨_, Field.cut?_of_letters order inside (toList_text trytes),
    readTrits_eq_ok_iff.mpr ⟨_, rfl, trits_slice field trytes⟩⟩

/-- A text writes digits exactly if these are packed into the text. Every text of letters of the
alphabet writes some, three for each of its characters, and all digits whose number is a multiple of
three are packed into a text. A letter stands for its place in the alphabet or, from the fourteenth
letter after the nine on, for its distance from the end of the alphabet, taken negative. In both
directions what follows one another is converted one after the other, so a field that is cut out of
a text writes the digits that are cut out in its place. -/
theorem conversion_bijective :
    (∀ written digits, readTrits written = .ok digits ↔ Trits.text? digits = some written) ∧
    (∀ written, (∃ digits, readTrits written = .ok digits) ↔
      ∀ character ∈ written.toList, character ∈ Tryte.alphabet) ∧
    (∀ digits, (∃ written, Trits.text? digits = some written) ↔ 3 ∣ digits.length) ∧
    (∀ written digits, readTrits written = .ok digits → digits.length = 3 * written.length) ∧
    (∀ (place : Nat) (inside : place < Tryte.alphabet.length),
      ∃ digits, readTrits (String.singleton Tryte.alphabet[place]) = .ok digits ∧
        Trits.value digits = if place ≤ 13 then (place : Int) else place - 27) ∧
    (∀ left right digits, readTrits (left ++ right) = .ok digits ↔
      ∃ front back, readTrits left = .ok front ∧ readTrits right = .ok back ∧
        digits = front ++ back) ∧
    (∀ front back left right, Trits.text? front = some left → Trits.text? back = some right →
      Trits.text? (front ++ back) = some (left ++ right)) ∧
    ∀ (field : Field) written digits, readTrits written = .ok digits →
      field.first ≤ field.last → field.last ≤ written.length →
      ∃ part, field.cut? written = some part ∧
        readTrits part = .ok ((digits.drop (3 * field.first)).take (3 * field.width)) := by
  refine ⟨fun _ _ => readTrits_eq_ok_iff_text?, fun _ => exists_readTrits_iff,
    fun _ => exists_text?_iff, fun _ _ => length_of_readTrits, fun _ => exists_readTrits_letter,
    fun _ _ _ => readTrits_append, ?_, fun _ _ _ => exists_cut?⟩
  intro front back left right first second
  rw [← readTrits_eq_ok_iff_text?] at first second ⊢
  exact readTrits_append.mpr ⟨front, back, first, second, rfl⟩

/-- The letters in the middle of the alphabet, where the numbers wrap around. -/
theorem conversion_bijective_middle :
    Trits.text? [.plus, .plus, .plus, .minus, .minus, .minus] = some "MN" ∧
      ∃ part, Field.cut? ⟨1, 2⟩ "MN" = some part ∧
        readTrits part = .ok [.minus, .minus, .minus] := by
  obtain ⟨inverse, -, -, -, -, -, -, fields⟩ := conversion_bijective
  have accepted : readTrits "MN" = .ok [.plus, .plus, .plus, .minus, .minus, .minus] :=
    rfl
  exact ⟨(inverse _ _).mp accepted, fields ⟨1, 2⟩ _ _ accepted (by decide) (by decide)⟩

end Trytes

end Inclusion
