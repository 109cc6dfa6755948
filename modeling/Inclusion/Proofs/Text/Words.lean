import Inclusion.Text.Blank

/-!
# The words and the lines of a text

White space before, between and after words is all the same, however much there is of it and of
whichever kind: a word begins with the first character that is none, and ends with the last one
before the next white space. `Splits` says so of a text and its words without reading the text from
the left, and `words_eq_iff` that these are the words that are read.

A line goes on up to the next line feed, whatever other characters there are in it.
-/

namespace Inclusion.Text

/-- How white space splits a text into words. -/
inductive Splits : List Char → List String → Prop where
  | nothing : Splits [] []
  | blank {character rest words} (blank : isBlank character = true) (later : Splits rest words) :
      Splits (character :: rest) words
  /-- A word goes on up to the next white space or to the end. -/
  | word {letters rest words} (present : letters ≠ [])
      (solid : ∀ character ∈ letters, isBlank character = false)
      (ends : ∀ next ∈ rest.head?, isBlank next = true) (later : Splits rest words) :
      Splits (letters ++ rest) (String.ofList letters :: words)

/-- A reader that is inside a word splits the text from the beginning of that word. -/
theorem splits_wordsAfter {word : List Char}
    (solid : ∀ character ∈ word, isBlank character = false) (characters : List Char) :
    Splits (word.reverse ++ characters) (wordsAfter word characters) := by
  induction characters generalizing word with
  | nil =>
    cases word with
    | nil => exact .nothing
    | cons last before =>
      exact .word (by simp) (fun _ member => solid _ (List.mem_reverse.mp member)) (by simp)
        .nothing
  | cons character rest inductionHypothesis =>
    rw [wordsAfter]
    split
    · next blank =>
      have later := Splits.blank blank (@inductionHypothesis [] (by simp))
      cases word with
      | nil => exact later
      | cons last before =>
        exact .word (by simp) (fun _ member => solid _ (List.mem_reverse.mp member))
          (by simpa using blank) later
    · next letter =>
      have extended := @inductionHypothesis (character :: word)
        (List.forall_mem_cons.mpr ⟨eq_false_of_ne_true letter, solid⟩)
      simpa using extended

/-- A reader takes in the letters of a word one by one. -/
theorem wordsAfter_append {letters : List Char}
    (solid : ∀ character ∈ letters, isBlank character = false) (word rest : List Char) :
    wordsAfter word (letters ++ rest) = wordsAfter (letters.reverse ++ word) rest := by
  induction letters generalizing word with
  | nil => rfl
  | cons first others inductionHypothesis =>
    obtain ⟨here, later⟩ := List.forall_mem_cons.mp solid
    rw [List.cons_append, wordsAfter, here, if_neg Bool.false_ne_true, inductionHypothesis later,
      List.reverse_cons, List.append_assoc]
    rfl

/-- The reader finishes its word where that ends. -/
theorem wordsAfter_of_ends {word rest : List Char} (present : word ≠ [])
    (ends : ∀ next ∈ rest.head?, isBlank next = true) :
    wordsAfter word rest = String.ofList word.reverse :: wordsAfter [] rest := by
  have unfinished : word.isEmpty = false := by simpa using present
  cases rest with
  | nil => simp [wordsAfter, unfinished]
  | cons next others =>
    have blank : isBlank next = true := ends next rfl
    simp [wordsAfter, unfinished, blank]

theorem wordsAfter_of_splits {characters : List Char} {words : List String}
    (splits : Splits characters words) : wordsAfter [] characters = words := by
  induction splits with
  | nothing => rfl
  | blank blank later inductionHypothesis => simpa [wordsAfter, blank] using inductionHypothesis
  | word present solid ends later inductionHypothesis =>
    have begun := List.reverse_ne_nil_iff.mpr present
    rw [wordsAfter_append solid, List.append_nil, wordsAfter_of_ends begun ends,
      List.reverse_reverse, inductionHypothesis]

/-- The words of a text are those into which white space splits it. -/
theorem words_eq_iff {text : String} {split : List String} :
    words text = split ↔ Splits text.toList split := by
  constructor
  · rintro rfl
    exact @splits_wordsAfter [] (by simp) text.toList
  · exact wordsAfter_of_splits

/-- A reader takes in the characters of a line one by one. -/
theorem linesAfter_append {characters : List Char} (unbroken : '\n' ∉ characters)
    (line rest : List Char) :
    linesAfter line (characters ++ rest) = linesAfter (characters.reverse ++ line) rest := by
  induction characters generalizing line with
  | nil => rfl
  | cons first others inductionHypothesis =>
    have here : first ≠ '\n' := fun same => unbroken (List.mem_cons.mpr (.inl same.symm))
    have later : '\n' ∉ others := fun member => unbroken (List.mem_cons_of_mem first member)
    rw [List.cons_append, linesAfter, inductionHypothesis later, List.reverse_cons,
      List.append_assoc]
    · rfl
    · exact here

/-- A line feed ends a line. -/
theorem lines_lineFeed {line : List Char} (unbroken : '\n' ∉ line) (rest : List Char) :
    lines (String.ofList (line ++ '\n' :: rest)) =
      finishLine line.reverse :: lines (String.ofList rest) := by
  rw [lines, lines, String.toList_ofList, String.toList_ofList, linesAfter_append unbroken,
    List.append_nil, linesAfter]

/-- The last line need not be ended. -/
theorem lines_last {line : List Char} (unbroken : '\n' ∉ line) (present : line ≠ []) :
    lines (String.ofList line) = [String.ofList line] := by
  have taken := linesAfter_append unbroken [] []
  rw [List.append_nil, List.append_nil] at taken
  rw [lines, String.toList_ofList, taken, linesAfter]
  simp [present]

end Inclusion.Text
