import Inclusion.Proofs.Transaction.Blank
import Inclusion.Proofs.Transaction.Encoding

/-!
# Which transaction is the tail

The search for a tail passes over the texts that are whole transactions of another index, and reads
of each no more than that index. What it gives for the first text that it cannot pass over is what
reading that text gives: the tail, or what is wrong with it. So the search agrees with reading all
texts wherever all of them can be read, and it never fails on an index.
-/

namespace Inclusion

/-- A text as long as a transaction, made of letters, with the given number in the place of its
index. The other numbers are not looked at. -/
def HasIndex (text : String) (index : Int) : Prop :=
  ∃ trytes, text.toList = Trytes.letters trytes ∧ trytes.length = transactionLength ∧
    Trytes.value (Field.currentIndex.slice trytes) = index

/-- A text that the search for a tail passes over. -/
def IsPassed (text : String) : Prop :=
  ∃ index, index ≠ 0 ∧ HasIndex text index

namespace Field

/-- The index of a transaction is read whatever its letters are. -/
theorem exists_currentIndex (trytes : List Tryte) :
    ∃ number, currentIndex.readInt trytes = .ok number :=
  exists_readInt_of_short (by decide) trytes

end Field

theorem Int64.eq_zero_of_toInt {number : Int64} (zero : number.toInt = 0) : number = 0 :=
  Int64.toInt_inj.mp zero

variable {text : String} {texts : List String} {transaction : Transaction}

/-- A text has one index at most. -/
theorem HasIndex.unique {first second : Int} (one : HasIndex text first)
    (other : HasIndex text second) : first = second := by
  obtain ⟨trytes, same, -, rfl⟩ := one
  obtain ⟨again, sameAgain, -, rfl⟩ := other
  rw [Trytes.letters_injective (same.symm.trans sameAgain)]

theorem HasIndex.not_isPassed (tail : HasIndex text 0) : ¬ IsPassed text := by
  rintro ⟨index, nonzero, other⟩
  exact nonzero (other.unique tail)

/-- A transaction that is read from a text has the index of the text. -/
theorem hasIndex_of_decode (decoded : Transaction.decode text = .ok transaction) :
    HasIndex text transaction.currentIndex.toInt := by
  obtain ⟨trytes, read, stands⟩ := Transaction.stands_of_decode decoded
  obtain ⟨same, length⟩ := Trytes.readExactly_eq_ok_iff.mp read
  exact ⟨trytes, same, length, stands.number (.currentIndex, transaction.currentIndex)
    (by simp [Transaction.numberFields])⟩

/-- A text from which a transaction is read is passed over exactly if the transaction is no tail. -/
theorem isPassed_iff_of_decode (decoded : Transaction.decode text = .ok transaction) :
    IsPassed text ↔ transaction.isTail = false := by
  have stands := hasIndex_of_decode decoded
  rw [Transaction.isTail, decide_eq_false_iff_not]
  constructor
  · rintro passed zero
    rw [zero] at stands
    exact stands.not_isPassed passed
  · intro nonzero
    exact ⟨_, fun zero => nonzero (Int64.eq_zero_of_toInt zero), stands⟩

/-! ## The first text that is not passed over -/

theorem tailOf_cons_of_isPassed (passed : IsPassed text) (rest : List String) :
    tailOf (text :: rest) = tailOf rest := by
  obtain ⟨index, nonzero, trytes, same, length, stands⟩ := passed
  obtain ⟨number, read⟩ := Field.exists_currentIndex trytes
  have other : number ≠ 0 := by
    rintro rfl
    exact nonzero (stands.symm.trans (Field.readInt_eq_ok_iff.mp read))
  have whole := Trytes.readExactly_eq_ok_iff.mpr ⟨same, length⟩
  simp only [tailOf, bind, Except.bind, whole, read, if_neg other]

/-- The search ends with a text that it does not pass over, and gives what reading it gives: where
it is no whole transaction, both say the same of it. -/
theorem tailOf_cons_of_not_isPassed (stops : ¬ IsPassed text) (rest : List String) :
    tailOf (text :: rest) = Transaction.decode text := by
  cases read : Trytes.readExactly transactionLength text with
  | error error => simp only [tailOf, Transaction.decode, bind, Except.bind, read]
  | ok trytes =>
    obtain ⟨same, length⟩ := Trytes.readExactly_eq_ok_iff.mp read
    obtain ⟨number, stands⟩ := Field.exists_currentIndex trytes
    have zero : number = 0 := by
      by_contra nonzero
      exact stops ⟨_, fun zero => nonzero (Int64.eq_zero_of_toInt zero), trytes, same, length,
        Field.readInt_eq_ok_iff.mp stands⟩
    simp only [tailOf, bind, Except.bind, read, stands, if_pos zero]

theorem tailOf_append_of_isPassed {before : List String} (passed : ∀ other ∈ before, IsPassed other)
    (rest : List String) : tailOf (before ++ rest) = tailOf rest := by
  induction before with
  | nil => rfl
  | cons first others inductionHypothesis =>
    obtain ⟨passedFirst, passedOthers⟩ := List.forall_mem_cons.mp passed
    rw [List.cons_append, tailOf_cons_of_isPassed passedFirst, inductionHypothesis passedOthers]

/-- A list in which not every text is passed over has a first one that is not. -/
theorem exists_first_not_isPassed (stops : ¬ ∀ text ∈ texts, IsPassed text) :
    ∃ before text after, texts = before ++ text :: after ∧ (∀ other ∈ before, IsPassed other) ∧
      ¬ IsPassed text := by
  induction texts with
  | nil => simp at stops
  | cons first rest inductionHypothesis =>
    by_cases passed : IsPassed first
    · obtain ⟨before, text, after, rfl, others, here⟩ := inductionHypothesis fun later =>
        stops (List.forall_mem_cons.mpr ⟨passed, later⟩)
      exact ⟨first :: before, text, after, rfl, List.forall_mem_cons.mpr ⟨passed, others⟩, here⟩
    · exact ⟨[], first, rest, rfl, by simp, passed⟩

/-- The search has passed over all texts, or has ended with the first that it does not pass over. -/
theorem tailOf_cases (texts : List String) :
    ((∀ text ∈ texts, IsPassed text) ∧ tailOf texts = .error .noTail) ∨
      ∃ before text after, texts = before ++ text :: after ∧ (∀ other ∈ before, IsPassed other) ∧
        ¬ IsPassed text ∧ tailOf texts = Transaction.decode text := by
  by_cases passed : ∀ text ∈ texts, IsPassed text
  · have searched := tailOf_append_of_isPassed passed []
    rw [List.append_nil] at searched
    exact .inl ⟨passed, searched⟩
  · obtain ⟨before, text, after, rfl, others, stops⟩ := exists_first_not_isPassed passed
    refine .inr ⟨before, text, after, rfl, others, stops, ?_⟩
    rw [tailOf_append_of_isPassed others, tailOf_cons_of_not_isPassed stops]

/-! ## What the search gives -/

theorem tailOf_eq_ok_iff : tailOf texts = .ok transaction ↔
    ∃ before text after, texts = before ++ text :: after ∧ (∀ other ∈ before, IsPassed other) ∧
      HasIndex text 0 ∧ Transaction.decode text = .ok transaction := by
  constructor
  · intro found
    obtain ⟨-, none_there⟩ | ⟨before, text, after, split, passed, stops, same⟩ := tailOf_cases texts
    · cases none_there.symm.trans found
    · have decoded := same.symm.trans found
      have tail : transaction.isTail = true := by
        simpa [isPassed_iff_of_decode decoded] using stops
      have stands := hasIndex_of_decode decoded
      rw [show transaction.currentIndex = 0 from of_decide_eq_true tail] at stands
      exact ⟨before, text, after, split, passed, stands, decoded⟩
  · rintro ⟨before, text, after, rfl, passed, tail, decoded⟩
    rw [tailOf_append_of_isPassed passed, tailOf_cons_of_not_isPassed tail.not_isPassed, decoded]

/-- Reading a text never says that there is no tail, nor that its index is out of range. -/
theorem Transaction.decode_ne_error {error : TrytesError}
    (foreign : error = .noTail ∨ error = .fieldRange 2331 2340) :
    decode text ≠ .error error := by
  intro refused
  rw [decode_eq_error_iff] at refused
  obtain rfl | rfl := foreign <;> cases refused

theorem tailOf_eq_noTail_iff : tailOf texts = .error .noTail ↔ ∀ text ∈ texts, IsPassed text := by
  obtain ⟨passed, none_there⟩ | ⟨before, text, after, rfl, -, stops, same⟩ := tailOf_cases texts
  · exact iff_of_true none_there passed
  · refine iff_of_false ?_ fun passed => stops (passed text (by simp))
    rw [same]
    exact Transaction.decode_ne_error (.inl rfl)

/-- Any other error is that of the first text that is neither passed over nor a tail that can be
read. -/
theorem tailOf_eq_error_iff {error : TrytesError} (fault : error ≠ .noTail) :
    tailOf texts = .error error ↔
      ∃ before text after, texts = before ++ text :: after ∧ (∀ other ∈ before, IsPassed other) ∧
        ¬ IsPassed text ∧ Transaction.Refused text error := by
  constructor
  · intro failed
    obtain ⟨-, none_there⟩ | ⟨before, text, after, split, passed, stops, same⟩ := tailOf_cases texts
    · exact absurd (Except.error.inj (failed.symm.trans none_there)) fault
    · exact ⟨before, text, after, split, passed, stops,
        Transaction.decode_eq_error_iff.mp (same.symm.trans failed)⟩
  · rintro ⟨before, text, after, rfl, passed, stops, refused⟩
    rw [tailOf_append_of_isPassed passed, tailOf_cons_of_not_isPassed stops,
      Transaction.decode_eq_error_iff.mpr refused]

theorem tailOf_ne_fieldRange (texts : List String) :
    tailOf texts ≠ .error (.fieldRange 2331 2340) := by
  obtain ⟨-, none_there⟩ | ⟨before, text, after, -, -, -, same⟩ := tailOf_cases texts
  · simp [none_there]
  · rw [same]
    exact Transaction.decode_ne_error (.inr rfl)

/-- Where all texts can be read, the tail is the first transaction of index zero. -/
theorem tailOf_of_decoded {transactions : List Transaction}
    (decoded : List.Forall₂ (fun text transaction => Transaction.decode text = .ok transaction)
      texts transactions) :
    tailOf texts = (transactions.find? Transaction.isTail).elim (.error .noTail) .ok := by
  induction decoded with
  | nil => rfl
  | @cons text transaction texts transactions decoded _ inductionHypothesis =>
    cases tail : transaction.isTail with
    | true =>
      have stops : ¬ IsPassed text := by simp [isPassed_iff_of_decode decoded, tail]
      rw [tailOf_cons_of_not_isPassed stops, List.find?_cons_of_pos tail, decoded]
      rfl
    | false =>
      have passed := (isPassed_iff_of_decode decoded).mpr tail
      rw [tailOf_cons_of_isPassed passed, List.find?_cons_of_neg (by simp [tail]),
        inductionHypothesis]

/-- What stands after a tail makes no difference, whether the search gets there or not. -/
theorem tailOf_append_tail (tail : HasIndex text 0) (before after others : List String) :
    tailOf (before ++ text :: others) = tailOf (before ++ text :: after) := by
  induction before with
  | nil => simp only [List.nil_append, tailOf_cons_of_not_isPassed tail.not_isPassed]
  | cons first rest inductionHypothesis =>
    by_cases passed : IsPassed first
    · simpa only [List.cons_append, tailOf_cons_of_isPassed passed] using inductionHypothesis
    · simp only [List.cons_append, tailOf_cons_of_not_isPassed passed]

/-- The search for a tail agrees with reading the transactions. It gives a transaction exactly if
that is read from a text of index zero and every text before it is a whole transaction of another
index; the transaction is a tail then and has the hash of that text. It finds no tail exactly if all
texts are whole transactions of other indices. Otherwise it says what is wrong with the first text
that is not passed over, which is never the range of an index. Where all texts can be read it gives
the first transaction of index zero, and what stands after a tail makes no difference. -/
theorem tailOf_agrees (texts : List String) :
    (∀ transaction, tailOf texts = .ok transaction ↔
      ∃ before text after, texts = before ++ text :: after ∧ (∀ other ∈ before, IsPassed other) ∧
        HasIndex text 0 ∧ Transaction.decode text = .ok transaction) ∧
    (∀ text transaction, HasIndex text 0 → Transaction.decode text = .ok transaction →
      transaction.isTail = true ∧ readTransactionHash text = .ok transaction.hash) ∧
    (tailOf texts = .error .noTail ↔ ∀ text ∈ texts, IsPassed text) ∧
    (∀ error, error ≠ .noTail → (tailOf texts = .error error ↔
      ∃ before text after, texts = before ++ text :: after ∧ (∀ other ∈ before, IsPassed other) ∧
        ¬ IsPassed text ∧ Transaction.Refused text error)) ∧
    tailOf texts ≠ .error (.fieldRange Field.currentIndex.first Field.currentIndex.last) ∧
    (∀ transactions, List.Forall₂
        (fun text transaction => Transaction.decode text = .ok transaction) texts transactions →
      tailOf texts = (transactions.find? Transaction.isTail).elim (.error .noTail) .ok) ∧
    ∀ before text after others, texts = before ++ text :: after → HasIndex text 0 →
      tailOf (before ++ text :: others) = tailOf texts := by
  refine ⟨fun _ => tailOf_eq_ok_iff, ?_, tailOf_eq_noTail_iff, fun _ => tailOf_eq_error_iff,
    tailOf_ne_fieldRange texts, fun _ => tailOf_of_decoded, ?_⟩
  · intro text transaction tail decoded
    refine ⟨?_, (Transaction.written_of_decode decoded).2⟩
    simpa [isPassed_iff_of_decode decoded] using tail.not_isPassed
  · rintro before text after others rfl tail
    exact tailOf_append_tail tail before after others

/-- Nines, but for an index of one. -/
def indexOne : List Tryte :=
  List.replicate 2331 .nine ++ (⟨⟨1, by decide⟩⟩ :: List.replicate 341 .nine)

/-- The tail is found behind another transaction, and the text after it is never looked at. -/
theorem tailOf_agrees_indexOne :
    tailOf [Trytes.text indexOne, blankText transactionLength, "?"] =
        .ok (.blank transactionLength) ∧
      (Transaction.blank transactionLength).isTail = true := by
  have length : indexOne.length = transactionLength := by decide +kernel
  have index : Trytes.value (Field.currentIndex.slice indexOne) = 1 := by decide +kernel
  have passed : IsPassed (Trytes.text indexOne) :=
    ⟨1, by decide, indexOne, String.toList_ofList, length, index⟩
  have decoded := Transaction.decode_blank
  have tail : HasIndex (blankText transactionLength) 0 := hasIndex_of_decode decoded
  obtain ⟨found, known, -⟩ :=
    tailOf_agrees [Trytes.text indexOne, blankText transactionLength, "?"]
  exact ⟨(found _).mpr ⟨[Trytes.text indexOne], blankText transactionLength, ["?"], rfl,
    by simpa using passed, tail, decoded⟩, (known _ _ tail decoded).1⟩

end Inclusion
