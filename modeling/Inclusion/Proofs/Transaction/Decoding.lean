import Mathlib.Algebra.Group.Int.Defs
import Inclusion.Proofs.Ternary.Bytes
import Inclusion.Proofs.Transaction.RoundTrip

/-!
# Which texts are transactions

A text is a transaction if it is 2673 letters and its value is a 64-bit integer. The value is the
only number with room for more: 27 digits stand for less than 64 bits do, so no other number is ever
refused. Fields are cut out of a text only after all of it was found to be letters, and letters can
be cut anywhere.
-/

namespace Inclusion

theorem Except.bind_eq_error {ε α β : Type} {first : Except ε α} {next : α → Except ε β}
    {error : ε} :
    first >>= next = .error error ↔
      first = .error error ∨ ∃ value, first = .ok value ∧ next value = .error error := by
  cases first with
  | error error => simp [bind, Except.bind]
  | ok value => simp [bind, Except.bind]

theorem Except.exists_eq_ok_iff {ε α : Type} {result : Except ε α} :
    (∃ value, result = .ok value) ↔ ∀ error, result ≠ .error error := by
  cases result <;> simp

/-- Digits stand for less than half of what as many places of ordinary ternary can tell apart. -/
theorem Trits.two_mul_natAbs_value_lt (trits : List Trit) :
    2 * (value trits).natAbs < 3 ^ trits.length :=
  expand?_isSome_iff.mp (Option.isSome_of_eq_some (expand?_eq_some_iff.mpr ⟨rfl, rfl⟩))

theorem Trytes.two_mul_natAbs_value_lt (trytes : List Tryte) :
    2 * (value trytes).natAbs < 3 ^ (3 * trytes.length) := by
  rw [← length_trits]
  exact Trits.two_mul_natAbs_value_lt (trits trytes)

namespace Field

/-- The part of a text that stands in the bytes of a field, if both ends lie between characters. -/
def cut? (field : Field) (text : String) : Option String := do
  let (before, _) ← Trytes.cutAfter? field.last text.toList
  let (_, part) ← Trytes.cutAfter? field.first before
  return String.ofList part

/-- The letters of a field are cut out of the letters of all trytes. -/
theorem cut?_of_letters {field : Field} {text : String} {trytes : List Tryte}
    (order : field.first ≤ field.last) (inside : field.last ≤ trytes.length)
    (same : text.toList = Trytes.letters trytes) :
    field.cut? text = some (field.readText trytes) := by
  have reached : field.first ≤ (trytes.take field.last).length := by
    rw [List.length_take]
    omega
  rw [cut?, same, Trytes.cutAfter?_letters inside]
  simp only [Option.bind_eq_bind, Option.bind_some, Trytes.cutAfter?_letters reached,
    List.drop_take]
  rfl

/-- A number is refused exactly if it is no 64-bit integer. -/
theorem readInt_eq_error_iff {field : Field} {trytes : List Tryte} {error : TrytesError} :
    field.readInt trytes = .error error ↔
      (Trytes.value (field.slice trytes) < -2 ^ 63 ∨
        2 ^ 63 ≤ Trytes.value (field.slice trytes)) ∧
      error = .fieldRange field.first field.last := by
  have least : Int64.minValue.toInt = -2 ^ 63 := rfl
  have greatest : Int64.maxValue.toInt = 2 ^ 63 - 1 := rfl
  rw [readInt]
  split
  · next range =>
    simp only [reduceCtorEq, false_iff]
    omega
  · next outside =>
    rw [Except.error.injEq, eq_comm]
    refine (and_iff_right ?_).symm
    omega

theorem exists_readInt_iff {field : Field} {trytes : List Tryte} :
    (∃ number, field.readInt trytes = .ok number) ↔
      -2 ^ 63 ≤ Trytes.value (field.slice trytes) ∧
        Trytes.value (field.slice trytes) < 2 ^ 63 := by
  simp only [Except.exists_eq_ok_iff, ne_eq, readInt_eq_error_iff, not_and]
  constructor
  · intro accepted
    by_contra outside
    exact accepted _ (by omega) rfl
  · intro inside _ outside
    omega

/-- The numbers besides the value, with nine trytes each. -/
def shortNumbers : List Field :=
  [timestamp, currentIndex, lastIndex, attachmentTimestamp, attachmentTimestampLower,
    attachmentTimestampUpper]

/-- Nine trytes never stand for a number outside the 64-bit integers. -/
theorem exists_readInt_of_short {field : Field} (short : field ∈ shortNumbers)
    (trytes : List Tryte) : ∃ number, field.readInt trytes = .ok number := by
  have widths : ∀ field ∈ shortNumbers, field.width = 9 := by decide
  have nine : (field.slice trytes).length ≤ 9 := by
    rw [slice, widths field short]
    exact List.length_take_le _ _
  have small : 2 * (Trytes.value (field.slice trytes)).natAbs < 3 ^ 27 :=
    Nat.lt_of_lt_of_le (Trytes.two_mul_natAbs_value_lt _)
      (Nat.pow_le_pow_right (by decide) (Nat.mul_le_mul_left 3 nine))
  rw [exists_readInt_iff]
  omega

end Field

namespace Transaction

/-- Why a text is refused as a transaction. -/
inductive Refused (text : String) : TrytesError → Prop
  /-- It does not take as many bytes as a transaction has trytes. -/
  | length (wrong : Trytes.byteLength text.toList ≠ transactionLength) :
    Refused text (.length transactionLength (Trytes.byteLength text.toList))
  /-- It takes as many bytes, but some of them are of a character that is no letter. -/
  | invalidTryte {position : Nat} {fault : Char}
    (right : Trytes.byteLength text.toList = transactionLength)
    (first : Trytes.FirstFault text.toList position fault) :
    Refused text (.invalidTryte position fault)
  /-- It is as many letters, and its value is no 64-bit integer. -/
  | fieldRange {trytes : List Tryte} (same : text.toList = Trytes.letters trytes)
    (length : trytes.length = transactionLength)
    (outside : Trytes.value (Field.value.slice trytes) < -2 ^ 63 ∨
      2 ^ 63 ≤ Trytes.value (Field.value.slice trytes)) :
    Refused text (.fieldRange 2268 2295)

/-- Of all fields the value alone decides whether trytes are a transaction. -/
theorem ofTrytes_eq_error_iff {hash : Hash} {trytes : List Tryte} {error : TrytesError} :
    ofTrytes hash trytes = .error error ↔ Field.value.readInt trytes = .error error := by
  have short := fun field member => @Field.exists_readInt_of_short field member trytes
  simp only [Field.shortNumbers, List.forall_mem_cons, List.not_mem_nil, false_imp_iff,
    implies_true, and_true] at short
  obtain ⟨⟨timestamp, timestampRead⟩, ⟨currentIndex, currentRead⟩, ⟨lastIndex, lastRead⟩,
    ⟨attached, attachedRead⟩, ⟨lower, lowerRead⟩, ⟨upper, upperRead⟩⟩ := short
  simp only [ofTrytes, bind, Except.bind, pure, Except.pure, timestampRead, currentRead, lastRead,
    attachedRead, lowerRead, upperRead]
  cases Field.value.readInt trytes <;> simp

theorem exists_ofTrytes_iff {hash : Hash} {trytes : List Tryte} :
    (∃ transaction, ofTrytes hash trytes = .ok transaction) ↔
      ∃ number, Field.value.readInt trytes = .ok number := by
  simp only [Except.exists_eq_ok_iff, ne_eq, ofTrytes_eq_error_iff]

theorem exists_decode_iff {text : String} :
    (∃ transaction, decode text = .ok transaction) ↔
      ∃ trytes, text.toList = Trytes.letters trytes ∧ trytes.length = transactionLength ∧
        -2 ^ 63 ≤ Trytes.value (Field.value.slice trytes) ∧
        Trytes.value (Field.value.slice trytes) < 2 ^ 63 := by
  simp only [decode, Except.bind_eq_ok, ← Field.exists_readInt_iff]
  constructor
  · rintro ⟨transaction, trytes, read, made⟩
    obtain ⟨same, length⟩ := Trytes.readExactly_eq_ok_iff.mp read
    exact ⟨trytes, same, length, exists_ofTrytes_iff.mp ⟨transaction, made⟩⟩
  · rintro ⟨trytes, same, length, inside⟩
    obtain ⟨transaction, made⟩ := exists_ofTrytes_iff.mpr inside
    exact ⟨transaction, trytes, Trytes.readExactly_eq_ok_iff.mpr ⟨same, length⟩, made⟩

/-- What is wrong with a text is judged in order: its length, its letters and its value. -/
theorem decode_eq_error_iff {text : String} {error : TrytesError} :
    decode text = .error error ↔ Refused text error := by
  rw [decode, Except.bind_eq_error, Trytes.readExactly_eq_error_iff]
  simp only [ofTrytes_eq_error_iff, Field.readInt_eq_error_iff, Trytes.readExactly_eq_ok_iff]
  constructor
  · rintro ((⟨wrong, rfl⟩ | ⟨right, position, fault, first, rfl⟩) |
      ⟨trytes, ⟨same, length⟩, outside, rfl⟩)
    · exact .length wrong
    · exact .invalidTryte right first
    · exact .fieldRange same length outside
  · intro refused
    cases refused with
    | length wrong => exact .inl (.inl ⟨wrong, rfl⟩)
    | invalidTryte right first => exact .inl (.inr ⟨right, _, _, first, rfl⟩)
    | fieldRange same length outside => exact .inr ⟨_, ⟨same, length⟩, outside, rfl⟩

/-- A text is a transaction exactly if it is 2673 letters and the number in its value is a 64-bit
integer. Otherwise it is refused for its length in bytes, or else for the first character that is no
letter, or else for the range of its value. No other number is ever refused, and no field is cut out
of a text that it cannot be cut out of. -/
theorem decode_acceptance (text : String) :
    ((∃ transaction, decode text = .ok transaction) ↔
      ∃ trytes, text.toList = Trytes.letters trytes ∧ trytes.length = transactionLength ∧
        -2 ^ 63 ≤ Trytes.value (Field.value.slice trytes) ∧
        Trytes.value (Field.value.slice trytes) < 2 ^ 63) ∧
    (∀ error, decode text = .error error ↔ Refused text error) ∧
    ∀ trytes, Trytes.readExactly transactionLength text = .ok trytes →
      (∀ field ∈ Field.all, field.cut? text = some (field.readText trytes)) ∧
      ∀ field ∈ Field.shortNumbers, ∃ number, field.readInt trytes = .ok number := by
  refine ⟨exists_decode_iff, fun error => decode_eq_error_iff, ?_⟩
  intro trytes read
  obtain ⟨same, length⟩ := Trytes.readExactly_eq_ok_iff.mp read
  have places : ∀ field ∈ Field.all,
      field.first ≤ field.last ∧ field.last ≤ transactionLength := by decide
  refine ⟨fun field member => ?_, fun field short => Field.exists_readInt_of_short short trytes⟩
  obtain ⟨order, inside⟩ := places field member
  exact Field.cut?_of_letters order (length ▸ inside) same

/-- The least number that is no 64-bit integer any more, between nines. -/
def oversized : List Tryte :=
  List.replicate 2268 .nine ++ ((Trytes.ofInt? (2 ^ 63) 27).getD [] ++ List.replicate 378 .nine)

theorem decode_acceptance_oversized :
    decode (Trytes.text oversized) = .error (.fieldRange 2268 2295) := by
  have length : oversized.length = transactionLength := by decide +kernel
  have outside : Trytes.value (Field.value.slice oversized) = 2 ^ 63 := by decide +kernel
  obtain ⟨-, refused, -⟩ := decode_acceptance (Trytes.text oversized)
  exact (refused _).mpr (.fieldRange String.toList_ofList length (.inr (Int.le_of_eq outside.symm)))

end Transaction

end Inclusion
