import Mathlib.Algebra.GroupWithZero.Nat
import Inclusion.Proofs.Transaction.Canonical
import Inclusion.Proofs.Transaction.Decoding

/-!
# Which transactions are written

A transaction is written if its numbers fit their fields and its texts are letters as far as they
are not cut off. A text is cut by characters but filled up by bytes, so one with a character of
several bytes may take more than its field, and what follows it would stand elsewhere. Such a
transaction is never written: a part that is made of letters has the length of its field, and
whatever is not made of letters is refused.
-/

namespace Inclusion

/-- Whether a number fits nine trytes. -/
def FitsShort (number : Int64) : Prop :=
  number.toInt.natAbs ≤ (3 ^ 27 - 1) / 2

instance : DecidablePred FitsShort :=
  fun number => inferInstanceAs (Decidable (number.toInt.natAbs ≤ (3 ^ 27 - 1) / 2))

/-- Powers of three are odd, so a number that fits is less than half of one. -/
theorem fitsShort_iff {number : Int64} : FitsShort number ↔ 2 * number.toInt.natAbs < 3 ^ 27 := by
  rw [FitsShort]
  omega

/-- The first number of several that does not fit. -/
def firstMisfit (numbers : List Int64) : Option Int64 :=
  numbers.find? (¬ FitsShort ·)

namespace Field

variable {field : Field} {number : Int64} {error : TrytesError}

/-- A number that cannot be written is named by the error. -/
theorem writeInt_eq_error (absent : ¬ ∃ characters, field.writeInt number = .ok characters) :
    field.writeInt number = .error (.overflow number.toInt) := by
  unfold writeInt at absent ⊢
  split at absent
  · exact absurd ⟨_, rfl⟩ absent
  · rfl

/-- A number takes the bytes of its field. -/
theorem byteLength_writeInt {characters : List Char}
    (written : field.writeInt number = .ok characters) :
    Trytes.byteLength characters = field.width := by
  obtain ⟨trytes, rfl, length, -⟩ := writeInt_eq_ok written
  rw [Trytes.byteLength_letters, length]

/-- What is written after a number fails with the first misfit of the numbers to come, or the number
itself is one. -/
theorem writeInt_short_bind_eq_error_iff (width : field.width = 9) {later : List Int64}
    {next : List Char → Except TrytesError (List Char)}
    (others : ∀ characters, next characters = .error error ↔
      ∃ misfit, firstMisfit later = some misfit ∧ error = .overflow misfit.toInt) :
    field.writeInt number >>= next = .error error ↔
      ∃ misfit, firstMisfit (number :: later) = some misfit ∧
        error = .overflow misfit.toInt := by
  have written_iff : (∃ characters, field.writeInt number = .ok characters) ↔ FitsShort number :=
    (exists_writeInt_short_iff field width).trans fitsShort_iff.symm
  by_cases fits : FitsShort number
  · obtain ⟨characters, written⟩ := written_iff.mpr fits
    have skipped : firstMisfit (number :: later) = firstMisfit later := by
      simp [firstMisfit, fits]
    rw [written, skipped]
    exact others characters
  · have refused := writeInt_eq_error (mt written_iff.mp fits)
    have found : firstMisfit (number :: later) = some number := by
      simp [firstMisfit, fits]
    rw [refused, found]
    simp [bind, Except.bind, eq_comm]

/-- The value is never the number that does not fit. -/
theorem writeInt_value_bind_eq_error_iff {next : List Char → Except TrytesError (List Char)}
    {reason : Prop} (others : ∀ characters, next characters = .error error ↔ reason) :
    value.writeInt number >>= next = .error error ↔ reason := by
  obtain ⟨characters, written⟩ := exists_writeInt_value number
  rw [written]
  exact others characters

end Field

namespace Transaction

variable {transaction : Transaction}

/-- Nothing is put together if a number does not fit: the first of them decides. -/
theorem letters_eq_error_iff {error : TrytesError} :
    transaction.letters = .error error ↔
      ∃ misfit, firstMisfit transaction.shortNumbers = some misfit ∧
        error = .overflow misfit.toInt := by
  refine Field.writeInt_value_bind_eq_error_iff fun value => ?_
  refine Field.writeInt_short_bind_eq_error_iff rfl fun timestamp => ?_
  refine Field.writeInt_short_bind_eq_error_iff rfl fun currentIndex => ?_
  refine Field.writeInt_short_bind_eq_error_iff rfl fun lastIndex => ?_
  refine Field.writeInt_short_bind_eq_error_iff rfl fun attached => ?_
  refine Field.writeInt_short_bind_eq_error_iff rfl fun lower => ?_
  refine Field.writeInt_short_bind_eq_error_iff rfl fun upper => ?_
  simp [firstMisfit, pure, Except.pure]

/-- The bytes that the texts of a transaction take more than their fields have. -/
def excess (transaction : Transaction) : Nat :=
  (transaction.texts.map fun (text, width) =>
    Trytes.byteLength (Trytes.padLetters width text.toList) - width).sum

/-- There are too many bytes if any text takes too many; no other text makes up for them. -/
theorem excess_pos_iff : 0 < transaction.excess ↔
    ∃ entry ∈ transaction.texts,
      entry.2 < Trytes.byteLength (Trytes.padLetters entry.2 entry.1.toList) := by
  simp only [excess, List.sum_pos_iff_exists_pos_nat, List.mem_map, exists_exists_and_eq_and,
    Nat.sub_pos_iff_lt]

/-- Numbers and hashes take the bytes of their fields, so all that is too much is of texts. -/
theorem Writes.byteLength_flatten {parts : List (List Char)} (writes : transaction.Writes parts) :
    Trytes.byteLength parts.flatten = transactionLength + transaction.excess := by
  -- The lengths are added up before the parts are named: comparing texts of nines takes long.
  have layout (signature obsoleteTag tag nonce : Nat) :
      2187 + signature + (hashLength + (Field.value.width + (27 + obsoleteTag +
        (Field.timestamp.width + (Field.currentIndex.width + (Field.lastIndex.width +
        (hashLength + (hashLength + (hashLength + (27 + tag +
        (Field.attachmentTimestamp.width + (Field.attachmentTimestampLower.width +
        (Field.attachmentTimestampUpper.width + (27 + nonce + 0)))))))))))))) =
      transactionLength + (signature + (obsoleteTag + (tag + (nonce + 0)))) := by
    simp only [hashLength, transactionLength, Field.width, Field.value, Field.timestamp,
      Field.currentIndex, Field.lastIndex, Field.attachmentTimestamp,
      Field.attachmentTimestampLower, Field.attachmentTimestampUpper, Nat.reduceSub]
    omega
  obtain ⟨_, _, _, _, _, _, _, valueWritten, timestampWritten, currentWritten, lastWritten,
    attachedWritten, lowerWritten, upperWritten, rfl⟩ := writes
  obtain ⟨signature, signatureOver⟩ :=
    Trytes.exists_byteLength_padLetters 2187 transaction.signature.toList
  obtain ⟨obsoleteTag, obsoleteOver⟩ :=
    Trytes.exists_byteLength_padLetters 27 transaction.obsoleteTag.toList
  obtain ⟨tag, tagOver⟩ := Trytes.exists_byteLength_padLetters 27 transaction.tag.toList
  obtain ⟨nonce, nonceOver⟩ := Trytes.exists_byteLength_padLetters 27 transaction.nonce.toList
  have widths : Field.signature.width = 2187 ∧ Field.obsoleteTag.width = 27 ∧
      Field.tag.width = 27 ∧ Field.nonce.width = 27 := by decide
  simp only [List.flatten_cons, List.flatten_nil, Trytes.byteLength_append, Trytes.byteLength_nil,
    Trytes.byteLength_letters, Hash.length_eq, Field.byteLength_writeInt valueWritten,
    Field.byteLength_writeInt timestampWritten, Field.byteLength_writeInt currentWritten,
    Field.byteLength_writeInt lastWritten, Field.byteLength_writeInt attachedWritten,
    Field.byteLength_writeInt lowerWritten, Field.byteLength_writeInt upperWritten,
    Field.writeText, widths, excess, texts, List.map_cons, List.map_nil, List.sum_cons,
    List.sum_nil, signatureOver, obsoleteOver, tagOver, nonceOver, Nat.add_sub_cancel_left]
  exact layout signature obsoleteTag tag nonce

/-- The fields of a transaction that hold numbers. -/
def numberFields (transaction : Transaction) : List (Field × Int64) :=
  [(.value, transaction.value), (.timestamp, transaction.timestamp),
    (.currentIndex, transaction.currentIndex), (.lastIndex, transaction.lastIndex),
    (.attachmentTimestamp, transaction.attachmentTimestamp),
    (.attachmentTimestampLower, transaction.attachmentTimestampLower),
    (.attachmentTimestampUpper, transaction.attachmentTimestampUpper)]

/-- The fields that hold hashes. -/
def hashFields (transaction : Transaction) : List (Field × Hash) :=
  [(.address, transaction.address), (.bundle, transaction.bundle), (.trunk, transaction.trunk),
    (.branch, transaction.branch)]

/-- The fields that hold texts. -/
def textFields (transaction : Transaction) : List (Field × String) :=
  [(.signature, transaction.signature), (.obsoleteTag, transaction.obsoleteTag),
    (.tag, transaction.tag), (.nonce, transaction.nonce)]

/-- Every field of a transaction stands in its own place among the trytes. -/
structure Stands (transaction : Transaction) (trytes : List Tryte) : Prop where
  number : ∀ entry ∈ transaction.numberFields,
    Trytes.value (entry.1.slice trytes) = entry.2.toInt
  hash : ∀ entry ∈ transaction.hashFields, entry.1.slice trytes = entry.2.trytes
  text : ∀ entry ∈ transaction.textFields,
    Trytes.letters (entry.1.slice trytes) = Trytes.padLetters entry.1.width entry.2.toList

/-- Why a transaction is not written. -/
inductive Spoiled (transaction : Transaction) : TrytesError → Prop
  /-- The first number that does not fit, in the order in which numbers are written. -/
  | overflow {number : Int64} (first : firstMisfit transaction.shortNumbers = some number) :
    Spoiled transaction (.overflow number.toInt)
  /-- All numbers fit, and a text takes more bytes than its field after it was filled up. -/
  | length (fit : ∀ number ∈ transaction.shortNumbers, FitsShort number)
    (wide : ∃ entry ∈ transaction.texts,
      entry.2 < Trytes.byteLength (Trytes.padLetters entry.2 entry.1.toList)) :
    Spoiled transaction (.length transactionLength (transactionLength + transaction.excess))
  /-- All numbers fit and no text takes more, but not all that is put together are letters. -/
  | invalidTryte {characters : List Char} {position : Nat} {fault : Char}
    (fit : ∀ number ∈ transaction.shortNumbers, FitsShort number)
    (narrow : ∀ entry ∈ transaction.texts,
      Trytes.byteLength (Trytes.padLetters entry.2 entry.1.toList) ≤ entry.2)
    (written : transaction.letters = .ok characters)
    (first : Trytes.FirstFault characters position fault) :
    Spoiled transaction (.invalidTryte position fault)

/-- The parts of a transaction that is written stand in their fields. -/
theorem Writes.stands {parts : List (List Char)} {trytes : List Tryte}
    (writes : transaction.Writes parts) (same : Trytes.letters trytes = parts.flatten) :
    transaction.Stands trytes := by
  have there := Field.slices Field.follow_all List.length_nil writes.holds same
  obtain ⟨_, _, _, _, _, _, _, valueWritten, timestampWritten, currentWritten, lastWritten,
    attachedWritten, lowerWritten, upperWritten, rfl⟩ := writes
  simp only [Field.all, List.map_cons, List.map_nil, List.cons.injEq, and_true] at there
  obtain ⟨signature, address, value, obsoleteTag, timestamp, currentIndex, lastIndex, bundle,
    trunk, branch, tag, attached, lower, upper, nonce⟩ := there
  have number {field : Field} {number : Int64} {characters : List Char}
      (written : field.writeInt number = .ok characters)
      (there : Trytes.letters (field.slice trytes) = characters) :
      Trytes.value (field.slice trytes) = number.toInt := by
    obtain ⟨those, rfl, -, stands⟩ := Field.writeInt_eq_ok written
    rw [Trytes.letters_injective there, stands]
  constructor
  · simp only [numberFields, List.forall_mem_cons, List.not_mem_nil, false_imp_iff, implies_true,
      and_true]
    exact ⟨number valueWritten value, number timestampWritten timestamp,
      number currentWritten currentIndex, number lastWritten lastIndex,
      number attachedWritten attached, number lowerWritten lower, number upperWritten upper⟩
  · simp only [hashFields, List.forall_mem_cons, List.not_mem_nil, false_imp_iff, implies_true,
      and_true]
    exact ⟨Trytes.letters_injective address, Trytes.letters_injective bundle,
      Trytes.letters_injective trunk, Trytes.letters_injective branch⟩
  · simp only [textFields, List.forall_mem_cons, List.not_mem_nil, false_imp_iff, implies_true,
      and_true]
    exact ⟨signature, obsoleteTag, tag, nonce⟩

/-- What is read from a text stands in it, field by field. -/
theorem stands_of_decode {text : String} (decoded : decode text = .ok transaction) :
    ∃ trytes, Trytes.readExactly transactionLength text = .ok trytes ∧
      transaction.Stands trytes := by
  obtain ⟨trytes, read, made⟩ := Except.bind_eq_ok.mp decoded
  obtain ⟨-, length⟩ := Trytes.readExactly_eq_ok_iff.mp read
  obtain ⟨-, writes⟩ := writes_of_ofTrytes length made
  exact ⟨trytes, read, writes.stands (Field.flatten_letters length).symm⟩

/-- A transaction has parts exactly if its numbers fit. -/
theorem fit_iff_exists_letters :
    (∀ number ∈ transaction.shortNumbers, FitsShort number) ↔
      ∃ characters, transaction.letters = .ok characters := by
  simp only [fitsShort_iff, ← exists_writes_iff, letters_eq_ok_iff]
  constructor
  · rintro ⟨parts, writes⟩
    exact ⟨_, parts, writes, rfl⟩
  · rintro ⟨_, parts, writes, -⟩
    exact ⟨parts, writes⟩

/-- A transaction is written exactly if its numbers fit and its texts are letters as far as they are
not cut off. -/
theorem exists_encode_iff :
    (∃ text, transaction.encode = .ok text) ↔
      (∀ number ∈ transaction.shortNumbers, FitsShort number) ∧
      ∀ entry ∈ transaction.texts,
        ∀ character ∈ entry.1.toList.take entry.2, Tryte.isLetter character := by
  simp only [fitsShort_iff, ← exists_writes_iff]
  constructor
  · rintro ⟨text, encoded⟩
    obtain ⟨trytes, parts, read, writes, rfl⟩ := encode_eq_ok_iff.mp encoded
    obtain ⟨same, -⟩ := Trytes.readExactly_eq_ok_iff.mp read
    rw [String.toList_ofList] at same
    refine ⟨⟨parts, writes⟩, writes.areLetters_iff.mp ?_⟩
    rw [same]
    exact Trytes.areLetters_letters trytes
  · rintro ⟨⟨parts, writes⟩, areLetters⟩
    obtain ⟨trytes, same⟩ := Trytes.exists_letters (writes.areLetters_iff.mpr areLetters)
    have length := Field.length_of_holds writes.holds same
    rw [Field.sum_width] at length
    exact ⟨_, encode_eq_ok_iff.mpr ⟨trytes, parts, Trytes.readExactly_eq_ok_iff.mpr
      ⟨by rw [String.toList_ofList, same], length⟩, writes, rfl⟩⟩

/-- A transaction that is not written is spoiled in one of three ways, and named by the first. -/
theorem encode_eq_error_iff {error : TrytesError} :
    transaction.encode = .error error ↔ transaction.Spoiled error := by
  have wide_iff := @excess_pos_iff transaction
  rw [encode, Except.bind_eq_error, letters_eq_error_iff]
  simp only [Except.bind_eq_error, Trytes.readExactly_eq_error_iff, String.toList_ofList, pure,
    Except.pure, reduceCtorEq, and_false, exists_false, or_false]
  constructor
  · rintro (⟨misfit, first, rfl⟩ | ⟨characters, written, refused⟩)
    · exact .overflow first
    · have fit := fit_iff_exists_letters.mpr ⟨characters, written⟩
      obtain ⟨parts, writes, rfl⟩ := letters_eq_ok_iff.mp written
      rw [writes.byteLength_flatten] at refused
      obtain ⟨wrong, rfl⟩ | ⟨right, position, fault, first, rfl⟩ := refused
      · exact .length fit (wide_iff.mp (by omega))
      · refine .invalidTryte fit (fun entry there => ?_) written first
        by_contra wide
        have := wide_iff.mpr ⟨entry, there, Nat.lt_of_not_le wide⟩
        omega
  · intro spoiled
    cases spoiled with
    | overflow first => exact .inl ⟨_, first, rfl⟩
    | length fit wide =>
      obtain ⟨characters, written⟩ := fit_iff_exists_letters.mp fit
      obtain ⟨parts, writes, rfl⟩ := letters_eq_ok_iff.mp written
      have := wide_iff.mpr wide
      refine .inr ⟨_, written, .inl ?_⟩
      rw [writes.byteLength_flatten]
      exact ⟨by omega, rfl⟩
    | invalidTryte fit narrow written first =>
      obtain ⟨parts, writes, rfl⟩ := letters_eq_ok_iff.mp written
      refine .inr ⟨_, written, .inr ⟨?_, _, _, first, rfl⟩⟩
      have none_over : ¬ 0 < transaction.excess := by
        rintro more
        obtain ⟨entry, there, wide⟩ := wide_iff.mp more
        exact absurd (narrow entry there) (Nat.not_le_of_lt wide)
      rw [writes.byteLength_flatten]
      omega

/-- A transaction is written exactly if its six short numbers fit nine trytes and its texts are
letters as far as they are not cut off; what is written then are 2673 trytes with every field in its
place. Otherwise it is refused for the first short number that does not fit, never for its value; or
else for its length, which is always too long, if a text takes more bytes than its field; or else
for the first character that is no letter. -/
theorem encode_acceptance (transaction : Transaction) :
    ((∃ text, transaction.encode = .ok text) ↔
      (∀ number ∈ transaction.shortNumbers, FitsShort number) ∧
      ∀ entry ∈ transaction.texts,
        ∀ character ∈ entry.1.toList.take entry.2, Tryte.isLetter character) ∧
    (∀ text, transaction.encode = .ok text → ∃ trytes, text = Trytes.text trytes ∧
      trytes.length = transactionLength ∧ transaction.Stands trytes) ∧
    (∀ error, transaction.encode = .error error ↔ transaction.Spoiled error) ∧
    ∀ expected actual, transaction.encode = .error (.length expected actual) →
      expected = transactionLength ∧ transactionLength < actual := by
  refine ⟨exists_encode_iff, ?_, fun error => encode_eq_error_iff, ?_⟩
  · intro text encoded
    obtain ⟨trytes, parts, read, writes, rfl⟩ := encode_eq_ok_iff.mp encoded
    obtain ⟨same, length⟩ := Trytes.readExactly_eq_ok_iff.mp read
    rw [String.toList_ofList] at same
    exact ⟨trytes, by rw [same, Trytes.text], length, writes.stands same.symm⟩
  · intro expected actual refused
    cases encode_eq_error_iff.mp refused with
    | length fit wide =>
      have := excess_pos_iff.mpr wide
      exact ⟨rfl, by omega⟩

/-- The tag of the sample takes twice the bytes of its field. -/
def accented : Transaction :=
  { sample with tag := String.ofList (List.replicate 27 'é') }

theorem encode_acceptance_accented :
    accented.encode = .error (.length 2673 2700) ∧
      { accented with lastIndex := 3812798742494 }.encode = .error (.overflow 3812798742494) := by
  have fit : accented.shortNumbers.all (FitsShort ·) = true := by decide
  have excess : accented.excess = 27 := by decide +kernel
  constructor
  · simp only [List.all_eq_true, decide_eq_true_eq] at fit
    have spoiled := Spoiled.length fit (excess_pos_iff.mp (by rw [excess]; decide))
    rw [excess] at spoiled
    obtain ⟨-, -, refused, -⟩ := encode_acceptance accented
    exact (refused _).mpr spoiled
  · have first : firstMisfit (shortNumbers { accented with lastIndex := 3812798742494 }) =
        some 3812798742494 := by decide +kernel
    obtain ⟨-, -, refused, -⟩ := encode_acceptance { accented with lastIndex := 3812798742494 }
    exact (refused _).mpr (.overflow first)

end Transaction

end Inclusion
