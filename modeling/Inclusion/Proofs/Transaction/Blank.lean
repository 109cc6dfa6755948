import Mathlib.Data.List.Basic
import Inclusion.Proofs.Ternary.Letters
import Inclusion.Transaction.Tail

/-!
# Blank trytes

A text of nines of any length reads as zero trytes, and zero trytes of any length stand for zero. So
the blank transaction is read without a fault and is a tail, whatever its digest is. The same holds
of a transaction that differs from it in the first tryte, which belongs to the signature.
-/

namespace Inclusion

/-- A text of so many nines. -/
def blankText (length : Nat) : String :=
  String.ofList (List.replicate length '9')

theorem Trytes.readLetters_nines (position length : Nat) :
    Trytes.readLetters position (List.replicate length '9') =
      .ok (List.replicate length .nine) := by
  induction length generalizing position with
  | zero => rfl
  | succ length inductionHypothesis =>
    have first : Tryte.ofLetter? '9' = some .nine := rfl
    simp [List.replicate_succ, readLetters, first, inductionHypothesis, Except.map]

/-- Nines are read as zero trytes. -/
theorem Trytes.readExactly_blank (length : Nat) :
    Trytes.readExactly length (blankText length) = .ok (List.replicate length .nine) := by
  have one_byte : Char.utf8Size '9' = 1 := rfl
  have bytes : byteLength (List.replicate length '9') = length := by
    rw [byteLength, ← List.sum_eq_foldr]
    simp [one_byte]
  simp [readExactly, read, blankText, bytes, readLetters_nines]

/-- Zero trytes stand for zero. -/
theorem Trytes.value_nines (length : Nat) : Trytes.value (List.replicate length .nine) = 0 := by
  have digits : Tryte.nine.trits = [.zero, .zero, .zero] := by decide
  induction length with
  | zero => rfl
  | succ length inductionHypothesis =>
    rw [value, trits] at inductionHypothesis
    rw [value, trits, List.replicate_succ, List.flatMap_cons, digits]
    simp [Trits.value, Trit.toInt, inductionHypothesis]

theorem Field.slice_nines (field : Field) (length : Nat) :
    field.slice (List.replicate length .nine) =
      List.replicate (min field.width (length - field.first)) .nine := by
  simp [slice]

theorem Field.readInt_nines (field : Field) (length : Nat) :
    field.readInt (List.replicate length .nine) = .ok 0 := by
  simp only [readInt, slice_nines, Trytes.value_nines]
  rfl

/-- The transaction that zero trytes write. -/
def Transaction.blank (length : Nat) : Transaction :=
  let trytes := List.replicate length Tryte.nine
  { hash := transactionHash trytes
    signature := Field.signature.readText trytes
    address := Field.address.readHash trytes
    value := 0
    obsoleteTag := Field.obsoleteTag.readText trytes
    timestamp := 0
    currentIndex := 0
    lastIndex := 0
    bundle := Field.bundle.readHash trytes
    trunk := Field.trunk.readHash trytes
    branch := Field.branch.readHash trytes
    tag := Field.tag.readText trytes
    attachmentTimestamp := 0
    attachmentTimestampLower := 0
    attachmentTimestampUpper := 0
    nonce := Field.nonce.readText trytes }

theorem Transaction.ofTrytes_nines (length : Nat) :
    ofTrytes (transactionHash (List.replicate length .nine)) (List.replicate length .nine) =
      .ok (blank length) := by
  simp only [ofTrytes, Field.readInt_nines]
  rfl

theorem Transaction.decode_of_readExactly {text : String} {trytes : List Tryte}
    (read : Trytes.readExactly transactionLength text = .ok trytes) :
    decode text = ofTrytes (transactionHash trytes) trytes := by
  simp only [decode, bind, Except.bind, read]

theorem Transaction.decode_blank :
    decode (blankText transactionLength) = .ok (blank transactionLength) :=
  (decode_of_readExactly (Trytes.readExactly_blank transactionLength)).trans
    (ofTrytes_nines transactionLength)

/-- A bundle that begins with its tail. -/
theorem tailOf_first {text : String} {rest : List String} {trytes : List Tryte}
    {transaction : Transaction} (read : Trytes.readExactly transactionLength text = .ok trytes)
    (index : Field.currentIndex.readInt trytes = .ok 0)
    (decoded : Transaction.ofTrytes (transactionHash trytes) trytes = .ok transaction) :
    tailOf (text :: rest) = .ok transaction := by
  simp [tailOf, Transaction.decode, bind, Except.bind, read, index, decoded]

/-- A blank text of the length of a transaction is the tail of every bundle that it begins. -/
theorem tailOf_blank (rest : List String) :
    tailOf (blankText transactionLength :: rest) = .ok (.blank transactionLength) :=
  tailOf_first (Trytes.readExactly_blank transactionLength)
    (Field.readInt_nines _ transactionLength) (Transaction.ofTrytes_nines transactionLength)

/-! ## Marked transactions -/

/-- The trytes of a blank transaction but for the first. -/
def markedTrytes (mark : Tryte) : List Tryte :=
  mark :: List.replicate (transactionLength - 1) .nine

/-- The text of a blank transaction but for its first letter. -/
def markedText (mark : Tryte) : String :=
  Trytes.text (markedTrytes mark)

/-- The blank transaction but for its signature, and for its hash. -/
def Transaction.marked (mark : Tryte) : Transaction :=
  { blank transactionLength with
    hash := transactionHash (markedTrytes mark)
    signature := Field.signature.readText (markedTrytes mark) }

theorem Trytes.readExactly_marked (mark : Tryte) :
    Trytes.readExactly transactionLength (markedText mark) = .ok (markedTrytes mark) := by
  refine readExactly_eq_ok_iff.mpr ⟨String.toList_ofList, ?_⟩
  rw [markedTrytes, List.length_cons, List.length_replicate]
  rfl

/-- All fields but the signature are blank. -/
theorem Field.slice_marked {field : Field} (later : 0 < field.first) (mark : Tryte) :
    field.slice (markedTrytes mark) = field.slice (List.replicate transactionLength .nine) := by
  obtain ⟨first, last⟩ := field
  cases first with
  | zero => cases later
  | succ first => rfl

theorem Field.readInt_marked {field : Field} (later : 0 < field.first) (mark : Tryte) :
    field.readInt (markedTrytes mark) = .ok 0 := by
  rw [readInt, slice_marked later, ← readInt, readInt_nines]

theorem Transaction.ofTrytes_marked (mark : Tryte) :
    ofTrytes (transactionHash (markedTrytes mark)) (markedTrytes mark) = .ok (marked mark) := by
  simp (disch := decide) only [ofTrytes, Field.readInt_marked, Field.readHash, Field.readText,
    Field.slice_marked]
  rfl

/-- A marked text is the tail of every bundle that it begins. -/
theorem tailOf_marked (mark : Tryte) (rest : List String) :
    tailOf (markedText mark :: rest) = .ok (.marked mark) :=
  tailOf_first (Trytes.readExactly_marked mark) (Field.readInt_marked (by decide) mark)
    (Transaction.ofTrytes_marked mark)

end Inclusion
