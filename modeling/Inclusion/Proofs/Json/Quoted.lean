import Inclusion.Json.Parser

/-!
# Quoted text is read back

A quoted text stands for the text that was quoted. Each of its characters is read again from its
escape, whatever was read before, so nothing has to be known of the characters but how one of them
is escaped. The written form of a text is therefore a document of its own.
-/

namespace Inclusion.Json

/-- The two digits of a control character, behind two zeros. -/
theorem digits_of_control : ∀ code < 0x20,
    List.replicate (4 - (Text.hexadecimal code).length) '0' ++ Text.hexadecimal code =
        ['0', '0', Nat.digitChar (code / 16), Nat.digitChar (code % 16)] ∧
      Parser.hexNumber? '0' '0' (Nat.digitChar (code / 16)) (Nat.digitChar (code % 16)) =
        some code := by
  decide

/-- A character is escaped by a letter of its own, by its number, or not at all. -/
theorem escape_cases (character : Char) :
    (∃ letter, escape character = ['\\', letter] ∧ letter ≠ 'u' ∧
      Parser.escaped? letter = some character) ∨
    (∃ third fourth, escape character = ['\\', 'u', '0', '0', third, fourth] ∧
      character.toNat < 0x20 ∧
      Parser.hexNumber? '0' '0' third fourth = some character.toNat) ∨
    (escape character = [character] ∧ character ≠ '"' ∧ character ≠ '\\' ∧
      0x20 ≤ character.toNat) := by
  unfold escape
  split
  · next quotation => exact .inl ⟨'"', rfl, by decide, by rw [quotation]; rfl⟩
  split
  · next backslash => exact .inl ⟨'\\', rfl, by decide, by rw [backslash]; rfl⟩
  split
  · next backspace => exact .inl ⟨'b', rfl, by decide, backspace ▸ rfl⟩
  split
  · next formFeed => exact .inl ⟨'f', rfl, by decide, formFeed ▸ rfl⟩
  split
  · next lineFeed => exact .inl ⟨'n', rfl, by decide, lineFeed ▸ rfl⟩
  split
  · next carriageReturn => exact .inl ⟨'r', rfl, by decide, carriageReturn ▸ rfl⟩
  split
  · next tabulator => exact .inl ⟨'t', rfl, by decide, tabulator ▸ rfl⟩
  split
  · next control =>
    obtain ⟨digits, number⟩ := digits_of_control _ control
    refine .inr (.inl ⟨_, _, ?_, control, number⟩)
    rw [List.append_assoc, digits]
    rfl
  · next quotation backslash _ _ _ _ _ plain =>
    exact .inr (.inr ⟨rfl, quotation, backslash, Nat.le_of_not_lt plain⟩)

namespace Parser

/-- A unit that is no half of a pair is a character of its own. -/
theorem TextSoFar.pushUnit_of_control {character : Char} (control : character.toNat < 0x20)
    (done : TextSoFar) : done.pushUnit character.toNat = done.push character := by
  rw [pushUnit, if_neg (by omega), if_neg (by omega), Char.ofNat_toNat]

/-- The escape of a character is read as that character. -/
theorem textAfter?_escape (done : TextSoFar) (character : Char) (rest : List Char) :
    textAfter? done (escape character ++ rest) = textAfter? (done.push character) rest := by
  obtain ⟨letter, escaped, short, stands⟩ | ⟨third, fourth, escaped, control, number⟩ |
    ⟨escaped, quotation, backslash, plain⟩ := escape_cases character
  · rw [escaped, List.cons_append, List.cons_append, List.nil_append, textAfter?]
    · simp only [stands]
    · exact fun _ _ _ _ _ same => absurd same short
  · simp only [escaped, List.cons_append, List.nil_append, textAfter?, number,
      TextSoFar.pushUnit_of_control control]
  · rw [escaped, List.cons_append, List.nil_append, textAfter?]
    · simp [backslash, Nat.not_lt.mpr plain]
    all_goals simp_all

/-- A quoted text is read up to the quotation mark that closes it. -/
theorem textAfter?_flatMap_escape (before text rest : List Char) :
    textAfter? ⟨before, true, none⟩ (text.flatMap escape ++ '"' :: rest) =
      some (some (String.ofList (before.reverse ++ text)), rest) := by
  induction text generalizing before with
  | nil => simp [textAfter?, TextSoFar.finish]
  | cons character text inductionHypothesis =>
    rw [List.flatMap_cons, List.append_assoc, textAfter?_escape]
    have extended := inductionHypothesis (character :: before)
    rwa [List.reverse_cons, List.append_assoc] at extended

/-- What begins with a quotation mark is a text or nothing. -/
theorem value?_quotation (bound : Nat) (rest : List Char) :
    value? (bound + 1) ('"' :: rest) =
      (textAfter? ⟨[], true, none⟩ rest).map fun (value, after) => (.text value, after) := by
  have start : skipSpaces ('"' :: rest) = '"' :: rest := rfl
  rw [value?, start]
  rfl

end Parser

/-- The written form of a text is a document, and the text is what that document says. -/
theorem Syntax.parse?_compact_text (text : String) :
    Syntax.parse? (Json.text text).compact = some (.text (some text)) := by
  have read := Parser.textAfter?_flatMap_escape [] text.toList []
  rw [List.reverse_nil, List.nil_append, String.ofList_toList] at read
  have quoted : (Json.text text).compact.toList =
      '"' :: (text.toList.flatMap escape ++ ['"']) := by
    rw [compact, String.toList_ofList, letters]
    rfl
  simp only [Syntax.parse?, quoted, Parser.value?_quotation, read, Option.map_some]
  rfl

end Inclusion.Json
