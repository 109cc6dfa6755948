import Inclusion.Ternary.Trit

/-!
# Trytes

A tryte is three trits, so one of twenty-seven values, and is written as one letter: the digit
nine for zero, `A` to `M` for one to thirteen, and `N` to `Z` for minus thirteen to minus one. The
letters are therefore in the order of the values modulo twenty-seven, and that index is what is
stored.
-/

namespace Inclusion

/-- Three trits, by the place of their letter in the alphabet. -/
structure Tryte where
  index : Fin 27
deriving DecidableEq, Repr, Inhabited

namespace Tryte

/-- The tryte of three zeros. -/
def nine : Tryte := ⟨0⟩

/-- The letter a tryte is written as. -/
def letter (tryte : Tryte) : Char :=
  if tryte.index = 0 then '9' else Char.ofNat (64 + tryte.index.val)

/-- The tryte a letter stands for. -/
def ofLetter? (character : Char) : Option Tryte :=
  if character = '9' then some nine
  else if bounds : 65 ≤ character.toNat ∧ character.toNat ≤ 90 then
    some ⟨⟨character.toNat - 64, by omega⟩⟩
  else none

/-- Whether the character is a letter of the alphabet. -/
def isLetter (character : Char) : Bool :=
  (ofLetter? character).isSome

/-- The number of a tryte: the second half of the alphabet wraps around to the negative numbers. -/
def value (tryte : Tryte) : Int :=
  if tryte.index.val ≤ 13 then tryte.index.val else (tryte.index.val : Int) - 27

/-- The tryte of three digits. -/
def ofTrits (low middle high : Trit) : Tryte :=
  ⟨Fin.ofNat 27 ((low.toInt + 3 * middle.toInt + 9 * high.toInt) % 27).toNat⟩

/-- The three digits of a tryte, least significant first. -/
def trits (tryte : Tryte) : List Trit :=
  let low := Trit.ofResidue tryte.value
  let middle := Trit.ofResidue ((tryte.value - low.toInt) / 3)
  let high := Trit.ofResidue ((tryte.value - low.toInt - 3 * middle.toInt) / 9)
  [low, middle, high]

end Tryte

namespace Trytes

/-- The digits of a list of trytes, three each. -/
def trits (trytes : List Tryte) : List Trit :=
  trytes.flatMap Tryte.trits

/-- The trytes of a list of digits, if its length is a multiple of three. -/
def ofTrits? : List Trit → Option (List Tryte)
  | [] => some []
  | low :: middle :: high :: rest => (ofTrits? rest).map (Tryte.ofTrits low middle high :: ·)
  | _ => none

/-- The number a list of trytes stands for. -/
def value (trytes : List Tryte) : Int :=
  Trits.value (trits trytes)

/-- A number in a field of the given number of trytes. -/
def ofInt? (number : Int) (width : Nat) : Option (List Tryte) :=
  (Trits.ofInt? number (3 * width)).bind ofTrits?

/-- The order of the written forms: the first different letter decides, and a beginning comes before
what continues it. -/
def le : List Tryte → List Tryte → Bool
  | [], _ => true
  | _ :: _, [] => false
  | left :: lefts, right :: rights =>
    left.index < right.index || (left.index = right.index && le lefts rights)

/-- The letters of a list of trytes. -/
def letters (trytes : List Tryte) : List Char :=
  trytes.map Tryte.letter

/-- The written form of a list of trytes. -/
def text (trytes : List Tryte) : String :=
  String.ofList (letters trytes)

end Trytes

end Inclusion
