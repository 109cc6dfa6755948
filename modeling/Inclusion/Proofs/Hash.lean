import Inclusion.Proofs.Json.Quoted
import Inclusion.Proofs.Transaction.Blank
import Inclusion.Proofs.Transaction.Encoding

/-!
# Every hash is well formed

Some hashes are read and checked; others are taken as they are: the hash of nothing but nines, the
hashes in the fields of a transaction, and the digest of one. The texts of those are not looked at
again. They are 81 letters all the same, since every field lies within the transaction, has 81
places and is cut out of letters only, and since a digest is always 243 trits, whatever is absorbed.
So what a hash is written as is read as that hash, also between quotation marks, and its beginning
can be cut off.
-/

namespace Inclusion

/-- A digest is one block, whatever it is the digest of. -/
theorem Curl.length_digest (trits : List Trit) : (digest trits).length = blockLength := by
  rw [digest, Vector.length_toList]
  rfl

/-- A digest can be packed, and fills a hash. -/
theorem Trytes.exists_ofTrits?_digest (trits : List Trit) :
    ∃ packed, ofTrits? (Curl.digest trits) = some packed ∧ packed.length = hashLength := by
  have whole : (Curl.digest trits).length = 3 * hashLength := Curl.length_digest trits
  obtain ⟨packed, made, length, -⟩ := exists_of_length whole
  exact ⟨packed, made, length⟩

namespace Hash

/-- The ways to a hash, each with the text that it keeps for one. Only the first two look at that
text. -/
inductive Obtained : Hash → String → Prop
  /-- A text that is read. -/
  | read {text : String} {hash : Hash} (accepted : read text = .ok hash) : Obtained hash text
  /-- The content of a document that is a text. -/
  | deserialized {document content : String} {hash : Hash}
    (parsed : Json.Syntax.parse? document = some (.text (some content)))
    (accepted : readSyntax? (.text (some content)) = some hash) : Obtained hash content
  /-- Nines. -/
  | null : Obtained null (blankText hashLength)
  /-- What is cut out of the text of a transaction. -/
  | field {text part : String} {transaction : Transaction} {field : Field} {hash : Hash}
    (decoded : Transaction.decode text = .ok transaction)
    (held : (field, hash) ∈ transaction.hashFields) (cut : field.cut? text = some part) :
    Obtained hash part
  /-- The packed digest of the text of a transaction. -/
  | digest {text : String} {trytes packed : List Tryte} {hash : Hash}
    (whole : Trytes.readExactly transactionLength text = .ok trytes)
    (hashed : readTransactionHash text = .ok hash)
    (made : Trytes.ofTrits? (Curl.digest (Trytes.trits trytes)) = some packed) :
    Obtained hash (Trytes.text packed)

variable {text document content : String} {hash : Hash}

theorem toList_text (hash : Hash) : hash.text.toList = Trytes.letters hash.trytes :=
  String.toList_ofList

/-- The written form of as many trytes as a hash has. -/
theorem text_ofTrytes {trytes : List Tryte} (length : trytes.length = hashLength) :
    (ofTrytes trytes).text = Trytes.text trytes := by
  rw [text, ofTrytes_trytes length]

/-- A text is read as a hash exactly if it is what that hash is written as. -/
theorem read_eq_ok_iff : read text = .ok hash ↔ text = hash.text := by
  rw [read]
  constructor
  · intro accepted
    split at accepted
    · cases accepted
    · next trytes whole =>
      obtain ⟨same, length⟩ := Trytes.readExactly_eq_ok_iff.mp whole
      obtain rfl := Except.ok.inj accepted
      rw [text_ofTrytes length, Trytes.text, ← same, String.ofList_toList]
  · rintro rfl
    have whole := Trytes.readExactly_eq_ok_iff.mpr ⟨hash.toList_text, hash.length_eq⟩
    rw [whole]
    exact congrArg Except.ok (ofTrytes_self hash)

theorem readSyntax?_eq_some_iff {tree : Json.Syntax} : readSyntax? tree = some hash ↔
    ∃ content, tree = .text (some content) ∧ read content = .ok hash := by
  unfold readSyntax?
  split
  · next content =>
    cases accepted : read content <;> simp [accepted, Except.toOption]
  · next other =>
    simp only [reduceCtorEq, false_iff]
    rintro ⟨content, rfl, -⟩
    exact other content rfl

/-- A document is read as a hash exactly if it is a text that is. -/
theorem deserialize_eq_some_iff : (Json.Syntax.parse? document).bind readSyntax? = some hash ↔
    ∃ content, Json.Syntax.parse? document = some (.text (some content)) ∧
      read content = .ok hash := by
  rw [Option.bind_eq_some_iff]
  simp only [readSyntax?_eq_some_iff]
  constructor
  · rintro ⟨_, parsed, content, rfl, accepted⟩
    exact ⟨content, parsed, accepted⟩
  · rintro ⟨content, parsed, accepted⟩
    exact ⟨_, parsed, content, rfl, accepted⟩

theorem text_null : null.text = blankText hashLength := by
  rw [text, Trytes.text, null, Trytes.letters, List.map_replicate]
  rfl

/-- What is cut out of a transaction for a hash is what the hash is written as. -/
theorem cut?_of_mem_hashFields {transaction : Transaction} {field : Field}
    (decoded : Transaction.decode text = .ok transaction)
    (held : (field, hash) ∈ transaction.hashFields) : field.cut? text = some hash.text := by
  obtain ⟨trytes, whole, stands⟩ := Transaction.stands_of_decode decoded
  obtain ⟨same, length⟩ := Trytes.readExactly_eq_ok_iff.mp whole
  have places : ∀ entry ∈ transaction.hashFields,
      entry.1.first ≤ entry.1.last ∧ entry.1.last ≤ transactionLength := by
    simp only [Transaction.hashFields, List.forall_mem_cons]
    decide
  obtain ⟨order, inside⟩ := places _ held
  rw [Field.cut?_of_letters order (length ▸ inside) same, Field.readText, stands.hash _ held]
  rfl

/-- The text that is kept for a hash is what the hash is written as. -/
theorem Obtained.text_eq (obtained : Obtained hash text) : hash.text = text := by
  cases obtained with
  | read accepted => exact (read_eq_ok_iff.mp accepted).symm
  | deserialized parsed accepted =>
    obtain ⟨_, same, read⟩ := readSyntax?_eq_some_iff.mp accepted
    cases same
    exact (read_eq_ok_iff.mp read).symm
  | null => exact text_null
  | field decoded held cut =>
    exact Option.some.inj ((cut?_of_mem_hashFields decoded held).symm.trans cut)
  | digest whole hashed made =>
    obtain ⟨packed, madeAgain, length⟩ := Trytes.exists_ofTrits?_digest (Trytes.trits _)
    rw [made] at madeAgain
    obtain rfl := Option.some.inj madeAgain
    rw [readTransactionHash, whole, Except.map, Except.ok.injEq, transactionHash, made] at hashed
    rw [← hashed]
    exact text_ofTrytes length

/-- The beginning of a hash can be cut off. -/
theorem abbreviation_eq (hash : Hash) : ∃ front back,
    Trytes.cutAfter? 12 hash.text.toList = some (front, back) ∧
      hash.abbreviation = "Hash(" ++ String.ofList front ++ "..)" := by
  have long : 12 ≤ hash.trytes.length := hash.length_eq ▸ by decide
  rw [toList_text]
  exact ⟨_, _, Trytes.cutAfter?_letters long, rfl⟩

/-- The written form of a hash is a document that is read as that hash. -/
theorem deserialize_compact (hash : Hash) :
    (Json.Syntax.parse? (Json.text hash.text).compact).bind readSyntax? = some hash :=
  deserialize_eq_some_iff.mpr
    ⟨hash.text, Json.Syntax.parse?_compact_text hash.text, read_eq_ok_iff.mpr rfl⟩

/-- Whatever can be read as a transaction is cut and digested without a fault. -/
theorem obtained_of_readExactly {trytes : List Tryte}
    (whole : Trytes.readExactly transactionLength text = .ok trytes) :
    ∃ packed, readTransactionHash text = .ok (transactionHash trytes) ∧
      Trytes.ofTrits? (Curl.digest (Trytes.trits trytes)) = some packed ∧
      Obtained (transactionHash trytes) (Trytes.text packed) := by
  obtain ⟨packed, made, -⟩ := Trytes.exists_ofTrits?_digest (Trytes.trits trytes)
  have hashed : readTransactionHash text = .ok (transactionHash trytes) := by
    rw [readTransactionHash, whole, Except.map]
  exact ⟨packed, hashed, made, .digest whole hashed made⟩

theorem obtained_of_decode {transaction : Transaction}
    (decoded : Transaction.decode text = .ok transaction) :
    Obtained transaction.hash transaction.hash.text := by
  obtain ⟨trytes, whole, -⟩ := Except.bind_eq_ok.mp decoded
  obtain ⟨packed, hashed, -, obtained⟩ := obtained_of_readExactly whole
  have same := (Transaction.written_of_decode decoded).2
  rw [Except.ok.inj (same.symm.trans hashed), obtained.text_eq]
  exact obtained

/-- Every text that is kept for a hash, in whichever way the hash was obtained, is the 81 letters of
that hash; it is read as the same hash again, and its beginning can be cut off. The texts that are
kept without a look at them are always there: the hashes in the fields of a transaction, and the
digest of whatever is as long as one. A document is read as a hash exactly if it is a text that is
read as that hash, and the written form of every hash is such a document. -/
theorem obtained_sound :
    (∀ hash text, Obtained hash text →
      text = hash.text ∧ text.toList = Trytes.letters hash.trytes ∧ hash.trytes.length = 81 ∧
      read text = .ok hash ∧
      ∃ front back, Trytes.cutAfter? 12 text.toList = some (front, back) ∧
        hash.abbreviation = "Hash(" ++ String.ofList front ++ "..)") ∧
    (∀ text transaction, Transaction.decode text = .ok transaction →
      Obtained transaction.hash transaction.hash.text ∧
      ∀ field hash, (field, hash) ∈ transaction.hashFields →
        ∃ part, field.cut? text = some part ∧ Obtained hash part) ∧
    (∀ text trytes, Trytes.readExactly transactionLength text = .ok trytes →
      (Curl.digest (Trytes.trits trytes)).length = 243 ∧
      ∃ hash packed, readTransactionHash text = .ok hash ∧
        Trytes.ofTrits? (Curl.digest (Trytes.trits trytes)) = some packed ∧
        Obtained hash (Trytes.text packed)) ∧
    (∀ document hash, (Json.Syntax.parse? document).bind readSyntax? = some hash ↔
      ∃ content, Json.Syntax.parse? document = some (.text (some content)) ∧
        read content = .ok hash) ∧
    ∀ hash : Hash,
      (Json.Syntax.parse? (Json.text hash.text).compact).bind readSyntax? = some hash := by
  refine ⟨?_, ?_, ?_, fun _ _ => deserialize_eq_some_iff, deserialize_compact⟩
  · intro hash text obtained
    obtain rfl := obtained.text_eq
    exact ⟨rfl, hash.toList_text, hash.length_eq, read_eq_ok_iff.mpr rfl, hash.abbreviation_eq⟩
  · intro text transaction decoded
    refine ⟨obtained_of_decode decoded, fun field hash held => ?_⟩
    have cut := cut?_of_mem_hashFields decoded held
    exact ⟨_, cut, .field decoded held cut⟩
  · intro text trytes whole
    obtain ⟨packed, hashed, made, obtained⟩ := obtained_of_readExactly whole
    exact ⟨Curl.length_digest _, _, packed, hashed, made, obtained⟩

/-- The digest of a blank transaction and the null hash in one of its fields are both read back from
what they are written as. -/
theorem obtained_sound_blank :
    ∃ hash part, readTransactionHash (blankText transactionLength) = .ok hash ∧
      read hash.text = .ok hash ∧
      Field.bundle.cut? (blankText transactionLength) = some part ∧ read part = .ok null := by
  obtain ⟨sound, fields, digests, -⟩ := obtained_sound
  have whole := Trytes.readExactly_blank transactionLength
  obtain ⟨-, hash, packed, hashed, -, obtained⟩ := digests _ _ whole
  have held : (Field.bundle, null) ∈ (Transaction.blank transactionLength).hashFields := by
    decide +kernel
  obtain ⟨part, cut, kept⟩ := (fields _ _ Transaction.decode_blank).2 _ _ held
  obtain ⟨same, -, -, readAgain, -⟩ := sound _ _ obtained
  exact ⟨hash, part, hashed, same ▸ readAgain, cut, (sound _ _ kept).2.2.2.1⟩

end Hash

end Inclusion
