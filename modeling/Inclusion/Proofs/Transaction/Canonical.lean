import Inclusion.Proofs.Transaction.RoundTrip

/-!
# What is read is written

The fields of a transaction follow one another from the first tryte to the last, so a text is all
that its fields hold. A number has one expansion in the places of its field, and a text or a hash
that was read from a field fills it. So a text can be written again from the transaction that was
read from it, and there is no second text of the same transaction.
-/

namespace Inclusion

/-- Nothing is added to letters that fill their field. -/
theorem Trytes.padLetters_of_filled {trytes : List Tryte} {width : Nat}
    (filled : trytes.length = width) : padLetters width (letters trytes) = letters trytes := by
  have kept : (letters trytes).take width = letters trytes := by
    rw [← filled, ← length_letters, List.take_length]
  rw [padLetters, kept, byteLength_letters, filled, Nat.sub_self, List.replicate_zero,
    List.append_nil]

namespace Field

variable {field : Field} {trytes : List Tryte}

/-- Trytes that reach the end of a field fill it. -/
theorem length_slice (order : field.first ≤ field.last) (reached : field.last ≤ trytes.length) :
    (field.slice trytes).length = field.width := by
  rw [slice, width, List.length_take, List.length_drop]
  omega

/-- Fields that follow one another from a place to the end hold all trytes from there on. -/
theorem flatten_slices {fields : List Field} {first : Nat} (follows : follow first fields)
    (whole : trytes.length = first + (fields.map width).foldr (· + ·) 0) :
    (fields.map fun field => field.slice trytes).flatten = trytes.drop first := by
  induction fields generalizing first with
  | nil =>
    simp only [List.map_nil, List.foldr_nil] at whole
    refine (List.drop_eq_nil_of_le ?_).symm
    omega
  | cons field rest inductionHypothesis =>
    simp only [follow, Bool.and_eq_true, beq_iff_eq, decide_eq_true_eq] at follows
    obtain ⟨⟨rfl, order⟩, follows⟩ := follows
    simp only [List.map_cons, List.foldr_cons] at whole
    have last : field.first + field.width = field.last := by
      rw [width]
      omega
    have later := inductionHypothesis follows (by omega)
    rw [List.map_cons, List.flatten_cons, later, slice, ← last, ← List.drop_drop,
      List.take_append_drop]

/-- Together the fields hold the letters of a whole transaction. -/
theorem flatten_letters (length : trytes.length = transactionLength) :
    (all.map fun field => Trytes.letters (field.slice trytes)).flatten = Trytes.letters trytes := by
  have all_widths : trytes.length = 0 + (all.map width).foldr (· + ·) 0 := by
    rw [length, sum_width, Nat.zero_add]
  have whole := flatten_slices follow_all all_widths
  rw [List.drop_zero] at whole
  calc (all.map fun field => Trytes.letters (field.slice trytes)).flatten
      = Trytes.letters (all.map fun field => field.slice trytes).flatten := by
        rw [Trytes.letters, List.map_flatten, List.map_map]
        rfl
    _ = Trytes.letters trytes := by rw [whole]

/-- A number that was read from a field is written there as it stood. -/
theorem writeInt_of_readInt {number : Int64} (filled : (field.slice trytes).length = field.width)
    (present : 0 < field.width) (read : field.readInt trytes = .ok number) :
    field.writeInt number = .ok (Trytes.letters (field.slice trytes)) := by
  have written : Trytes.ofInt? (Trytes.value (field.slice trytes)) field.width =
      some (field.slice trytes) := by
    rw [← filled] at present ⊢
    exact Trytes.ofInt?_value present
  rw [readInt_eq_ok_iff.mp read] at written
  simp only [writeInt, written]

/-- A text that was read from a field is written there as it stood. -/
theorem writeText_readText (filled : (field.slice trytes).length = field.width) :
    field.writeText (field.readText trytes) = Trytes.letters (field.slice trytes) := by
  rw [writeText, readText, Trytes.text, String.toList_ofList, Trytes.padLetters_of_filled filled]

/-- A hash that was read from a field is written there as it stood. -/
theorem letters_readHash (filled : (field.slice trytes).length = hashLength) :
    Trytes.letters (field.readHash trytes).trytes = Trytes.letters (field.slice trytes) := by
  rw [readHash, Hash.ofTrytes_trytes filled]

end Field

namespace Transaction

variable {text : String} {transaction : Transaction}

/-- What is written of a transaction that was read are its fields as they stood. -/
theorem writes_of_ofTrytes {hash : Hash} {trytes : List Tryte}
    (length : trytes.length = transactionLength)
    (read : ofTrytes hash trytes = .ok transaction) :
    transaction.hash = hash ∧
      transaction.Writes (Field.all.map fun field => Trytes.letters (field.slice trytes)) := by
  have filled : ∀ field ∈ Field.all, (field.slice trytes).length = field.width := by
    have bounds : ∀ field ∈ Field.all,
        field.first ≤ field.last ∧ field.last ≤ transactionLength := by decide
    intro field member
    obtain ⟨order, reached⟩ := bounds field member
    exact Field.length_slice order (length ▸ reached)
  simp only [Field.all, List.forall_mem_cons, List.not_mem_nil, false_imp_iff, implies_true,
    and_true] at filled
  obtain ⟨signature, address, value, obsoleteTag, timestamp, currentIndex, lastIndex, bundle, trunk,
    branch, tag, attached, lower, upper, nonce⟩ := filled
  simp only [ofTrytes, Except.bind_eq_ok, pure, Except.pure, Except.ok.injEq] at read
  obtain ⟨_, valueRead, _, timestampRead, _, currentRead, _, lastRead, _, attachedRead, _,
    lowerRead, _, upperRead, rfl⟩ := read
  refine ⟨rfl, _, _, _, _, _, _, _, Field.writeInt_of_readInt value (by decide) valueRead,
    Field.writeInt_of_readInt timestamp (by decide) timestampRead,
    Field.writeInt_of_readInt currentIndex (by decide) currentRead,
    Field.writeInt_of_readInt lastIndex (by decide) lastRead,
    Field.writeInt_of_readInt attached (by decide) attachedRead,
    Field.writeInt_of_readInt lower (by decide) lowerRead,
    Field.writeInt_of_readInt upper (by decide) upperRead, ?_⟩
  simp only [Field.all, List.map_cons, List.map_nil, Field.writeText_readText signature,
    Field.writeText_readText obsoleteTag, Field.writeText_readText tag,
    Field.writeText_readText nonce, Field.letters_readHash address, Field.letters_readHash bundle,
    Field.letters_readHash trunk, Field.letters_readHash branch]

/-- A transaction that was read from a text is written as that text and has the hash of it. -/
theorem written_of_decode (decoded : decode text = .ok transaction) :
    transaction.encode = .ok text ∧ readTransactionHash text = .ok transaction.hash := by
  obtain ⟨trytes, read, made⟩ := Except.bind_eq_ok.mp decoded
  obtain ⟨same, length⟩ := Trytes.readExactly_eq_ok_iff.mp read
  obtain ⟨hash, writes⟩ := writes_of_ofTrytes length made
  constructor
  · refine encode_eq_ok_iff.mpr ⟨trytes, _, read, writes, ?_⟩
    rw [Field.flatten_letters length, ← same, String.ofList_toList]
  · rw [readTransactionHash, read, hash]
    rfl

/-- A text from which a transaction is read is what is written of that transaction, letter by
letter. So the transaction, written and hashed again, has the hash with which it was read, and no
other text reads as a transaction that differs from it in nothing but the hash. -/
theorem encode_decode (decoded : decode text = .ok transaction) :
    transaction.encode = .ok text ∧
      transaction.encode >>= readTransactionHash = .ok transaction.hash ∧
      ∀ other again, decode other = .ok again →
        { again with hash := transaction.hash } = transaction → other = text := by
  obtain ⟨encoded, hash⟩ := written_of_decode decoded
  refine ⟨encoded, Except.bind_eq_ok.mpr ⟨text, encoded, hash⟩, ?_⟩
  intro other again decodedAgain same
  -- Writing takes no account of the hash, so both are written as the same text.
  have encodedAgain : transaction.encode = .ok other := by
    rw [← same]
    exact (written_of_decode decodedAgain).1
  exact Except.ok.inj (encodedAgain.symm.trans encoded)

/-- Letters in the signature and the address, the least value that there is, and nines. -/
def leastTrytes : List Tryte :=
  List.replicate 2268 ⟨⟨13, by decide⟩⟩ ++
    ((Trytes.ofInt? Int64.minValue.toInt 27).getD [] ++ List.replicate 378 .nine)

theorem encode_decode_least : ∃ transaction,
    decode (Trytes.text leastTrytes) = .ok transaction ∧ transaction.value = Int64.minValue ∧
      transaction.encode = .ok (Trytes.text leastTrytes) := by
  have length : leastTrytes.length = transactionLength := by decide +kernel
  have read : Trytes.readExactly transactionLength (Trytes.text leastTrytes) = .ok leastTrytes :=
    Trytes.readExactly_eq_ok_iff.mpr ⟨String.toList_ofList, length⟩
  have value : Field.value.readInt leastTrytes = .ok Int64.minValue := by decide +kernel
  have others : ∀ field ∈ [Field.timestamp, .currentIndex, .lastIndex, .attachmentTimestamp,
      .attachmentTimestampLower, .attachmentTimestampUpper],
      field.readInt leastTrytes = .ok 0 := by decide +kernel
  simp only [List.forall_mem_cons, List.not_mem_nil, false_imp_iff, implies_true,
    and_true] at others
  obtain ⟨timestamp, currentIndex, lastIndex, attached, lower, upper⟩ := others
  obtain ⟨transaction, decoded, least⟩ : ∃ transaction,
      decode (Trytes.text leastTrytes) = .ok transaction ∧
        transaction.value = Int64.minValue := by
    simp only [decode, ofTrytes, Except.bind_eq_ok, pure, Except.pure, Except.ok.injEq]
    exact ⟨_, ⟨_, read, _, value, _, timestamp, _, currentIndex, _, lastIndex, _, attached, _,
      lower, _, upper, rfl⟩, rfl⟩
  exact ⟨transaction, decoded, least, (encode_decode decoded).1⟩

end Transaction

end Inclusion
