import Inclusion.Proofs.Ternary.Letters
import Inclusion.Transaction.Codec

/-!
# What is written is read

The fields of a transaction follow one another, so the letters of a field are found where they were
put if every field before it was filled exactly. A number fills its field and so does a hash; a text
fills it if it is made of letters, and a transaction with any other text is not written at all.
-/

namespace Inclusion

theorem Except.bind_eq_ok {ε α β : Type} {first : Except ε α} {next : α → Except ε β} {result : β} :
    first >>= next = .ok result ↔ ∃ value, first = .ok value ∧ next value = .ok result := by
  cases first with
  | error error => simp [bind, Except.bind]
  | ok value => simp [bind, Except.bind]

theorem Hash.ofTrytes_self (hash : Hash) : ofTrytes hash.trytes = hash := by
  obtain ⟨trytes, length⟩ := hash
  rw [mk.injEq, ofTrytes_trytes length]

namespace Trytes

/-- The letters of a text that fit a field of the given width are followed by nines. -/
theorem padLetters_letters (width : Nat) (trytes : List Tryte) :
    (padLetters width (letters trytes)).length = width := by
  have kept : (letters trytes).take width = letters (trytes.take width) := List.map_take.symm
  rw [padLetters, kept, byteLength_letters, List.length_append, length_letters,
    List.length_replicate, List.length_take]
  omega

/-- A text that is made of letters after it was filled up has the length asked for. -/
theorem length_of_padLetters {width : Nat} {characters : List Char} {trytes : List Tryte}
    (same : letters trytes = padLetters width characters) : trytes.length = width := by
  obtain ⟨front, back, -, kept, -⟩ := List.map_eq_append_iff.mp same
  -- What is not cut off is made of letters, so its length in bytes is its length in trytes.
  have cut : padLetters width (letters front) = padLetters width characters := by
    have short : (letters front).take width = characters.take width := by
      rw [letters, kept, List.take_take, Nat.min_self]
    rw [padLetters, padLetters, short]
  rw [← length_letters, same, ← cut, padLetters_letters]

/-- Letters are letters. -/
theorem areLetters_letters (trytes : List Tryte) :
    ∀ character ∈ letters trytes, Tryte.isLetter character := by
  intro character there
  obtain ⟨tryte, -, rfl⟩ := List.mem_map.mp there
  rw [Tryte.isLetter, Tryte.ofLetter?_letter]
  rfl

/-- Characters that are letters are the letters of something. -/
theorem exists_letters {characters : List Char}
    (areLetters : ∀ character ∈ characters, Tryte.isLetter character) :
    ∃ trytes, letters trytes = characters := by
  induction characters with
  | nil => exact ⟨[], rfl⟩
  | cons character rest inductionHypothesis =>
    obtain ⟨first, others⟩ := List.forall_mem_cons.mp areLetters
    obtain ⟨tryte, stands⟩ := Option.isSome_iff_exists.mp first
    obtain ⟨trytes, rfl⟩ := inductionHypothesis others
    exact ⟨tryte :: trytes, by rw [letters, List.map_cons, Tryte.letter_of_ofLetter? stands]; rfl⟩

end Trytes

namespace Field

/-- A number written in a field fills it with letters that stand for it. -/
theorem writeInt_eq_ok {field : Field} {number : Int64} {characters : List Char}
    (written : field.writeInt number = .ok characters) :
    ∃ trytes, characters = Trytes.letters trytes ∧ trytes.length = field.width ∧
      Trytes.value trytes = number.toInt := by
  unfold writeInt at written
  split at written
  · next trytes made =>
    obtain ⟨length, stands⟩ := Trytes.ofInt?_eq_some made
    exact ⟨trytes, (Except.ok.inj written).symm, length, stands⟩
  · cases written

/-- The numbers written in a field are those less than half of what its digits can tell apart. -/
theorem exists_writeInt_iff {field : Field} {number : Int64} :
    (∃ characters, field.writeInt number = .ok characters) ↔
      0 < field.width ∧ 2 * number.toInt.natAbs < 3 ^ (3 * field.width) := by
  rw [← Trytes.ofInt?_isSome_iff, writeInt]
  split
  · next made => simp [made]
  · next absent => simp [absent]

/-- Nine trytes have room for the numbers less than half of what 27 digits can tell apart. -/
theorem exists_writeInt_short_iff (field : Field) {number : Int64} (width : field.width = 9) :
    (∃ characters, field.writeInt number = .ok characters) ↔
      2 * number.toInt.natAbs < 3 ^ 27 := by
  rw [exists_writeInt_iff, width]
  exact and_iff_right (by decide)

/-- The value has room for every 64-bit integer. -/
theorem exists_writeInt_value (number : Int64) :
    ∃ characters, value.writeInt number = .ok characters := by
  refine exists_writeInt_iff.mpr ⟨by decide, ?_⟩
  have lower := Int64.le_toInt number
  have upper := Int64.toInt_lt number
  have room : 2 ^ 64 < 3 ^ (3 * value.width) := by decide
  omega

/-- What is read from a field is the number that its trytes stand for. -/
theorem readInt_eq_ok_iff {field : Field} {trytes : List Tryte} {number : Int64} :
    field.readInt trytes = .ok number ↔ Trytes.value (field.slice trytes) = number.toInt := by
  have least : Int64.minValue.toInt = -2 ^ 63 := rfl
  have greatest : Int64.maxValue.toInt = 2 ^ 63 - 1 := rfl
  rw [readInt]
  split
  · next range =>
    have stands : (Int64.ofInt (Trytes.value (field.slice trytes))).toInt =
        Trytes.value (field.slice trytes) := by
      apply Int64.toInt_ofInt_of_le <;> omega
    rw [Except.ok.injEq]
    constructor
    · rintro rfl
      exact stands.symm
    · intro same
      rw [same, Int64.ofInt_toInt]
  · next outside =>
    simp only [reduceCtorEq, false_iff]
    intro same
    exact outside (same ▸ ⟨Int64.minValue_le_toInt number, Int64.toInt_le number⟩)

/-- A number is read from a field that holds its letters. -/
theorem readInt_of_letters {field : Field} {number : Int64} {characters : List Char}
    {trytes : List Tryte} (written : field.writeInt number = .ok characters)
    (there : Trytes.letters (field.slice trytes) = characters) :
    field.readInt trytes = .ok number := by
  obtain ⟨those, rfl, -, stands⟩ := writeInt_eq_ok written
  obtain rfl := Trytes.letters_injective there
  exact readInt_eq_ok_iff.mpr stands

/-- A hash is read from a field that holds its letters. -/
theorem readHash_of_letters {field : Field} {hash : Hash} {trytes : List Tryte}
    (there : Trytes.letters (field.slice trytes) = Trytes.letters hash.trytes) :
    field.readHash trytes = hash := by
  rw [readHash, Trytes.letters_injective there, Hash.ofTrytes_self]

/-- A text is read as it was filled up. -/
theorem readText_of_letters {field : Field} {text : String} {trytes : List Tryte}
    (there : Trytes.letters (field.slice trytes) = field.writeText text) :
    field.readText trytes = Trytes.pad text field.width := by
  rw [readText, Trytes.text, there]
  rfl

/-- What is filled up with nines is letters if what is not cut off is. -/
theorem areLetters_writeText {field : Field} {text : String} :
    (∀ character ∈ field.writeText text, Tryte.isLetter character) ↔
      ∀ character ∈ text.toList.take field.width, Tryte.isLetter character := by
  have nine : Tryte.isLetter '9' := by decide
  simp only [writeText, Trytes.padLetters, List.forall_mem_append]
  refine and_iff_left fun character there => ?_
  rw [List.eq_of_mem_replicate there]
  exact nine

/-- Whether the fields follow one another from the given place without gaps. -/
def follow : Nat → List Field → Bool
  | _, [] => true
  | first, field :: rest =>
    field.first == first && decide (first ≤ field.last) && follow field.last rest

theorem follow_all : follow 0 all := by decide

/-- The part of a text that stands in a field: letters are enough to fill it. -/
def Holds (field : Field) (part : List Char) : Prop :=
  ∀ trytes, Trytes.letters trytes = part → trytes.length = field.width

theorem holds_writeText (field : Field) (text : String) : field.Holds (field.writeText text) :=
  fun _ same => Trytes.length_of_padLetters same

theorem holds_writeInt {field : Field} {number : Int64} {characters : List Char}
    (written : field.writeInt number = .ok characters) : field.Holds characters := by
  intro trytes same
  obtain ⟨those, rfl, length, -⟩ := writeInt_eq_ok written
  rw [Trytes.letters_injective same, length]

theorem holds_hash {field : Field} (hash : Hash) (width : field.width = hashLength) :
    field.Holds (Trytes.letters hash.trytes) := by
  intro trytes same
  rw [Trytes.letters_injective same, hash.length_eq, width]

/-- Fields that follow one another hold the parts that a text was put together from. -/
theorem slices {fields : List Field} {first : Nat} {before : List Char} {parts : List (List Char)}
    {trytes : List Tryte} (follows : follow first fields) (starts : before.length = first)
    (holds : List.Forall₂ Holds fields parts)
    (same : Trytes.letters trytes = before ++ parts.flatten) :
    fields.map (fun field => Trytes.letters (field.slice trytes)) = parts := by
  induction holds generalizing first before with
  | nil => rfl
  | @cons field part rest others holds _ inductionHypothesis =>
    simp only [follow, Bool.and_eq_true, beq_iff_eq, decide_eq_true_eq] at follows
    obtain ⟨⟨rfl, order⟩, follows⟩ := follows
    rw [List.flatten_cons] at same
    obtain ⟨front, back, rfl, fronts, backs⟩ := List.map_eq_append_iff.mp same
    obtain ⟨piece, tail, rfl, pieces, tails⟩ := List.map_eq_append_iff.mp backs
    -- The fields before are filled, so this one begins where their letters end.
    have width : piece.length = field.width := holds piece pieces
    have place : front.length = field.first := by rw [← starts, ← fronts, List.length_map]
    have here : field.slice (front ++ (piece ++ tail)) = piece := by
      rw [slice, ← place, List.drop_left, ← width, List.take_left]
    rw [List.map_cons, here]
    have length : (before ++ part).length = field.last := by
      rw [List.length_append, ← pieces, List.length_map, width, Field.width, starts]
      omega
    exact congrArg₂ List.cons pieces
      (inductionHypothesis follows length (by rw [same, List.append_assoc]))

/-- Parts that are made of letters are together as long as their fields. -/
theorem length_of_holds {fields : List Field} {parts : List (List Char)} {trytes : List Tryte}
    (holds : List.Forall₂ Holds fields parts) (same : Trytes.letters trytes = parts.flatten) :
    trytes.length = (fields.map width).foldr (· + ·) 0 := by
  induction holds generalizing trytes with
  | nil =>
    rw [← Trytes.length_letters, same]
    rfl
  | cons holds _ inductionHypothesis =>
    rw [List.flatten_cons] at same
    obtain ⟨front, back, rfl, fronts, backs⟩ := List.map_eq_append_iff.mp same
    rw [List.length_append, holds front fronts, inductionHypothesis backs]
    rfl

end Field

namespace Transaction

/-- The parts of the text that a transaction is written as, a part for every field. -/
def Writes (transaction : Transaction) (parts : List (List Char)) : Prop :=
  ∃ value timestamp currentIndex lastIndex attachmentTimestamp attachmentTimestampLower
      attachmentTimestampUpper,
    Field.value.writeInt transaction.value = .ok value ∧
    Field.timestamp.writeInt transaction.timestamp = .ok timestamp ∧
    Field.currentIndex.writeInt transaction.currentIndex = .ok currentIndex ∧
    Field.lastIndex.writeInt transaction.lastIndex = .ok lastIndex ∧
    Field.attachmentTimestamp.writeInt transaction.attachmentTimestamp =
      .ok attachmentTimestamp ∧
    Field.attachmentTimestampLower.writeInt transaction.attachmentTimestampLower =
      .ok attachmentTimestampLower ∧
    Field.attachmentTimestampUpper.writeInt transaction.attachmentTimestampUpper =
      .ok attachmentTimestampUpper ∧
    parts =
      [Field.signature.writeText transaction.signature,
        Trytes.letters transaction.address.trytes, value,
        Field.obsoleteTag.writeText transaction.obsoleteTag, timestamp, currentIndex, lastIndex,
        Trytes.letters transaction.bundle.trytes, Trytes.letters transaction.trunk.trytes,
        Trytes.letters transaction.branch.trytes, Field.tag.writeText transaction.tag,
        attachmentTimestamp, attachmentTimestampLower, attachmentTimestampUpper,
        Field.nonce.writeText transaction.nonce]

theorem letters_eq_ok_iff {transaction : Transaction} {characters : List Char} :
    transaction.letters = .ok characters ↔
      ∃ parts, transaction.Writes parts ∧ parts.flatten = characters := by
  simp only [letters, Except.bind_eq_ok, pure, Except.pure, Except.ok.injEq, Writes]
  constructor
  · rintro ⟨value, valueWritten, timestamp, timestampWritten, currentIndex, currentWritten,
      lastIndex, lastWritten, at_, atWritten, lower, lowerWritten, upper, upperWritten, rfl⟩
    exact ⟨_, ⟨value, timestamp, currentIndex, lastIndex, at_, lower, upper, valueWritten,
      timestampWritten, currentWritten, lastWritten, atWritten, lowerWritten, upperWritten, rfl⟩,
      by simp⟩
  · rintro ⟨parts, ⟨value, timestamp, currentIndex, lastIndex, at_, lower, upper, valueWritten,
      timestampWritten, currentWritten, lastWritten, atWritten, lowerWritten, upperWritten, rfl⟩,
      rfl⟩
    exact ⟨value, valueWritten, timestamp, timestampWritten, currentIndex, currentWritten,
      lastIndex, lastWritten, at_, atWritten, lower, lowerWritten, upper, upperWritten, by simp⟩

/-- Every part fills the field it is for. -/
theorem Writes.holds {transaction : Transaction} {parts : List (List Char)}
    (writes : transaction.Writes parts) : List.Forall₂ Field.Holds Field.all parts := by
  obtain ⟨value, timestamp, currentIndex, lastIndex, at_, lower, upper, valueWritten,
    timestampWritten, currentWritten, lastWritten, atWritten, lowerWritten, upperWritten, rfl⟩ :=
    writes
  exact .cons (Field.holds_writeText _ _) <| .cons (Field.holds_hash _ rfl) <|
    .cons (Field.holds_writeInt valueWritten) <| .cons (Field.holds_writeText _ _) <|
    .cons (Field.holds_writeInt timestampWritten) <|
    .cons (Field.holds_writeInt currentWritten) <| .cons (Field.holds_writeInt lastWritten) <|
    .cons (Field.holds_hash _ rfl) <| .cons (Field.holds_hash _ rfl) <|
    .cons (Field.holds_hash _ rfl) <| .cons (Field.holds_writeText _ _) <|
    .cons (Field.holds_writeInt atWritten) <| .cons (Field.holds_writeInt lowerWritten) <|
    .cons (Field.holds_writeInt upperWritten) <| .cons (Field.holds_writeText _ _) .nil

/-- A transaction is written as trytes whose fields are the parts. -/
theorem encode_eq_ok_iff {transaction : Transaction} {text : String} :
    transaction.encode = .ok text ↔
      ∃ trytes parts, Trytes.readExactly transactionLength text = .ok trytes ∧
        transaction.Writes parts ∧ text = String.ofList parts.flatten := by
  simp only [encode, Except.bind_eq_ok, letters_eq_ok_iff, pure, Except.pure, Except.ok.injEq]
  constructor
  · rintro ⟨characters, ⟨parts, writes, rfl⟩, trytes, read, rfl⟩
    exact ⟨trytes, parts, read, writes, rfl⟩
  · rintro ⟨trytes, parts, read, writes, rfl⟩
    exact ⟨_, ⟨parts, writes, rfl⟩, trytes, read, rfl⟩

/-- Whatever a text holds besides, the transaction that its trytes write is the one whose parts it
was put together from. -/
theorem Writes.ofTrytes {transaction : Transaction} {parts : List (List Char)}
    {trytes : List Tryte} (writes : transaction.Writes parts)
    (same : Trytes.letters trytes = parts.flatten) (hash : Hash) :
    ofTrytes hash trytes = .ok { transaction with
      hash
      signature := Trytes.pad transaction.signature Field.signature.width
      obsoleteTag := Trytes.pad transaction.obsoleteTag Field.obsoleteTag.width
      tag := Trytes.pad transaction.tag Field.tag.width
      nonce := Trytes.pad transaction.nonce Field.nonce.width } := by
  have there := Field.slices Field.follow_all List.length_nil writes.holds same
  obtain ⟨value, timestamp, currentIndex, lastIndex, attached, lower, upper, valueWritten,
    timestampWritten, currentWritten, lastWritten, attachedWritten, lowerWritten, upperWritten,
    rfl⟩ := writes
  simp only [Field.all, List.map_cons, List.map_nil, List.cons.injEq, and_true] at there
  obtain ⟨signatureThere, addressThere, valueThere, obsoleteThere, timestampThere, currentThere,
    lastThere, bundleThere, trunkThere, branchThere, tagThere, attachedThere, lowerThere,
    upperThere, nonceThere⟩ := there
  simp only [Transaction.ofTrytes, bind, Except.bind, pure, Except.pure,
    Field.readInt_of_letters valueWritten valueThere,
    Field.readInt_of_letters timestampWritten timestampThere,
    Field.readInt_of_letters currentWritten currentThere,
    Field.readInt_of_letters lastWritten lastThere,
    Field.readInt_of_letters attachedWritten attachedThere,
    Field.readInt_of_letters lowerWritten lowerThere,
    Field.readInt_of_letters upperWritten upperThere,
    Field.readHash_of_letters addressThere, Field.readHash_of_letters bundleThere,
    Field.readHash_of_letters trunkThere, Field.readHash_of_letters branchThere,
    Field.readText_of_letters signatureThere, Field.readText_of_letters obsoleteThere,
    Field.readText_of_letters tagThere, Field.readText_of_letters nonceThere]

/-- The numbers of a transaction that have a place of 27 digits each; the value has 81. -/
def shortNumbers (transaction : Transaction) : List Int64 :=
  [transaction.timestamp, transaction.currentIndex, transaction.lastIndex,
    transaction.attachmentTimestamp, transaction.attachmentTimestampLower,
    transaction.attachmentTimestampUpper]

/-- The texts of a transaction, each with the number of characters it is cut to. -/
def texts (transaction : Transaction) : List (String × Nat) :=
  [(transaction.signature, 2187), (transaction.obsoleteTag, 27), (transaction.tag, 27),
    (transaction.nonce, 27)]

/-- A transaction has parts exactly if its numbers fit; the value does always. -/
theorem exists_writes_iff {transaction : Transaction} :
    (∃ parts, transaction.Writes parts) ↔
      ∀ number ∈ transaction.shortNumbers, 2 * number.toInt.natAbs < 3 ^ 27 := by
  have short := @Field.exists_writeInt_short_iff
  simp only [shortNumbers, List.forall_mem_cons, List.not_mem_nil, false_imp_iff, implies_true,
    and_true]
  constructor
  · rintro ⟨_, value, timestamp, currentIndex, lastIndex, attached, lower, upper, -,
      timestampWritten, currentWritten, lastWritten, attachedWritten, lowerWritten, upperWritten, -⟩
    exact ⟨(short _ rfl).mp ⟨_, timestampWritten⟩, (short _ rfl).mp ⟨_, currentWritten⟩,
      (short _ rfl).mp ⟨_, lastWritten⟩, (short _ rfl).mp ⟨_, attachedWritten⟩,
      (short _ rfl).mp ⟨_, lowerWritten⟩, (short _ rfl).mp ⟨_, upperWritten⟩⟩
  · rintro ⟨timestampFits, currentFits, lastFits, attachedFits, lowerFits, upperFits⟩
    obtain ⟨value, valueWritten⟩ := Field.exists_writeInt_value transaction.value
    obtain ⟨timestamp, timestampWritten⟩ := (short .timestamp rfl).mpr timestampFits
    obtain ⟨currentIndex, currentWritten⟩ := (short .currentIndex rfl).mpr currentFits
    obtain ⟨lastIndex, lastWritten⟩ := (short .lastIndex rfl).mpr lastFits
    obtain ⟨attached, attachedWritten⟩ :=
      (short .attachmentTimestamp rfl).mpr attachedFits
    obtain ⟨lower, lowerWritten⟩ :=
      (short .attachmentTimestampLower rfl).mpr lowerFits
    obtain ⟨upper, upperWritten⟩ :=
      (short .attachmentTimestampUpper rfl).mpr upperFits
    exact ⟨_, value, timestamp, currentIndex, lastIndex, attached, lower, upper, valueWritten,
      timestampWritten, currentWritten, lastWritten, attachedWritten, lowerWritten, upperWritten,
      rfl⟩

/-- The parts are letters exactly if the texts are, as far as they are not cut off. -/
theorem Writes.areLetters_iff {transaction : Transaction} {parts : List (List Char)}
    (writes : transaction.Writes parts) :
    (∀ character ∈ parts.flatten, Tryte.isLetter character) ↔
      ∀ entry ∈ transaction.texts,
        ∀ character ∈ entry.1.toList.take entry.2, Tryte.isLetter character := by
  obtain ⟨value, timestamp, currentIndex, lastIndex, attached, lower, upper, valueWritten,
    timestampWritten, currentWritten, lastWritten, attachedWritten, lowerWritten, upperWritten,
    rfl⟩ := writes
  obtain ⟨valueTrytes, rfl, -⟩ := Field.writeInt_eq_ok valueWritten
  obtain ⟨timestampTrytes, rfl, -⟩ := Field.writeInt_eq_ok timestampWritten
  obtain ⟨currentTrytes, rfl, -⟩ := Field.writeInt_eq_ok currentWritten
  obtain ⟨lastTrytes, rfl, -⟩ := Field.writeInt_eq_ok lastWritten
  obtain ⟨attachedTrytes, rfl, -⟩ := Field.writeInt_eq_ok attachedWritten
  obtain ⟨lowerTrytes, rfl, -⟩ := Field.writeInt_eq_ok lowerWritten
  obtain ⟨upperTrytes, rfl, -⟩ := Field.writeInt_eq_ok upperWritten
  have spelled (trytes : List Tryte) :
      (∀ character ∈ Trytes.letters trytes, Tryte.isLetter character) ↔ True :=
    iff_true_intro (Trytes.areLetters_letters trytes)
  simp only [List.flatten_cons, List.flatten_nil, List.append_nil, List.forall_mem_append,
    spelled, Field.areLetters_writeText, texts, List.forall_mem_cons,
    List.not_mem_nil, false_imp_iff, implies_true, and_true, true_and]
  exact Iff.rfl

/-- A transaction is written exactly if its numbers fit their fields and its texts are made of
letters. Reading then returns what was written: every number and hash as it was, every text filled
up with nines or cut to its place, and the hash of the whole text. -/
theorem decode_encode (transaction : Transaction) :
    ((∃ text, transaction.encode = .ok text) ↔
      (∀ number ∈ transaction.shortNumbers, 2 * number.toInt.natAbs < 3 ^ 27) ∧
      ∀ entry ∈ transaction.texts,
        ∀ character ∈ entry.1.toList.take entry.2, Tryte.isLetter character) ∧
    ∀ text, transaction.encode = .ok text →
      ∃ hash, readTransactionHash text = .ok hash ∧
        decode text = .ok { transaction with
          hash
          signature := Trytes.pad transaction.signature 2187
          obsoleteTag := Trytes.pad transaction.obsoleteTag tagLength
          tag := Trytes.pad transaction.tag tagLength
          nonce := Trytes.pad transaction.nonce tagLength } := by
  constructor
  · rw [← exists_writes_iff]
    constructor
    · rintro ⟨text, encoded⟩
      obtain ⟨trytes, parts, read, writes, rfl⟩ := encode_eq_ok_iff.mp encoded
      obtain ⟨same, -⟩ := Trytes.readExactly_eq_ok_iff.mp read
      rw [String.toList_ofList] at same
      refine ⟨⟨parts, writes⟩, writes.areLetters_iff.mp ?_⟩
      rw [same]
      exact Trytes.areLetters_letters trytes
    · rintro ⟨⟨parts, writes⟩, areLetters⟩
      obtain ⟨trytes, same⟩ := Trytes.exists_letters (writes.areLetters_iff.mpr areLetters)
      have length := Field.length_of_holds writes.holds same
      rw [Field.sum_width] at length
      exact ⟨_, encode_eq_ok_iff.mpr ⟨trytes, parts, Trytes.readExactly_eq_ok_iff.mpr
        ⟨by rw [String.toList_ofList, same], length⟩, writes, rfl⟩⟩
  · intro text encoded
    obtain ⟨trytes, parts, read, writes, rfl⟩ := encode_eq_ok_iff.mp encoded
    obtain ⟨same, -⟩ := Trytes.readExactly_eq_ok_iff.mp read
    rw [String.toList_ofList] at same
    refine ⟨transactionHash trytes, by rw [readTransactionHash, read]; rfl, ?_⟩
    rw [decode, read]
    exact writes.ofTrytes same.symm _

/-- A transaction whose value is the least that there is, with a short tag and a long nonce. -/
def sample : Transaction where
  hash := .null
  signature := ""
  address := .null
  value := Int64.minValue
  obsoleteTag := "PROMOTE"
  timestamp := 1600000000
  currentIndex := 0
  lastIndex := -3812798742493
  bundle := .null
  trunk := .null
  branch := .null
  tag := "PROMOTE"
  attachmentTimestamp := 1600000000123
  attachmentTimestampLower := 0
  attachmentTimestampUpper := 3812798742493
  nonce := "ABCDEFGHIJKLMNOPQRSTUVWXYZ9 is cut off"

theorem decode_encode_sample :
    ∃ text hash, sample.encode = .ok text ∧
      decode text = .ok { sample with
        hash
        signature := Trytes.pad "" 2187
        obsoleteTag := "PROMOTE99999999999999999999"
        tag := "PROMOTE99999999999999999999"
        nonce := "ABCDEFGHIJKLMNOPQRSTUVWXYZ9" } := by
  obtain ⟨isWritten, isRead⟩ := decode_encode sample
  have fit : sample.shortNumbers.all (2 * ·.toInt.natAbs < 3 ^ 27) = true := by decide
  have letters : sample.texts.all (fun entry =>
      (entry.1.toList.take entry.2).all Tryte.isLetter) = true := by decide
  obtain ⟨text, encoded⟩ := isWritten.mpr
    ⟨by simpa only [List.all_eq_true, decide_eq_true_eq] using fit,
      by simpa only [List.all_eq_true] using letters⟩
  obtain ⟨hash, -, decoded⟩ := isRead text encoded
  have tag : Trytes.pad "PROMOTE" 27 = "PROMOTE99999999999999999999" := by decide
  have nonce : Trytes.pad "ABCDEFGHIJKLMNOPQRSTUVWXYZ9 is cut off" 27 =
      "ABCDEFGHIJKLMNOPQRSTUVWXYZ9" := by decide
  refine ⟨text, hash, encoded, ?_⟩
  rw [← tag, ← nonce]
  exact decoded

end Transaction

end Inclusion
