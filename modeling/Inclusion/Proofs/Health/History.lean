import Mathlib.Data.List.Induction
import Mathlib.Data.List.Sort
import Inclusion.Proofs.Health

/-!
# What the accounts answer

The accounts of endpoints are compared with books that forget nothing. In the books every outcome
stands with its label and its time, and the figures of a label are counted anew whenever they are
asked for.

The accounts drop remembered errors by two rules, whenever a label is touched. Neither rule drops an
error that a later answer would count: one that is older than the window stays so, and one that is
not among the last hundred is behind a hundred others that are at least as recent.
-/

namespace Inclusion

namespace Health

/-- What can be asked of the accounts. -/
inductive Operation where
  | register (label : String)
  | record (handle : Nat) (failed : Bool)
  | read (label : String)
  | readAll
deriving DecidableEq

/-- What they answer. -/
inductive Answer where
  | handle (handle : Nat)
  | booked (failed : Bool)
  | figures (stats : EndpointStats)
  | table (rows : List (String × EndpointStats))
deriving DecidableEq

/-- An operation and the time it is done at. -/
structure Entry where
  now : Nat
  operation : Operation
deriving DecidableEq

/-- Whether an operation is done only for its answer. -/
def Operation.isReading : Operation → Bool
  | .register _ | .record _ _ => false
  | .read _ | .readAll => true

/-- The accounts after an operation, and its answer. -/
def perform (health : Health) (entry : Entry) : Health × Answer :=
  match entry.operation with
  | .register label => ((health.register label).1, .handle (health.register label).2)
  | .record handle failed => (health.record handle failed entry.now, .booked failed)
  | .read label =>
    ((health.read label entry.now).1, .figures (health.read label entry.now).2)
  | .readAll => ((health.readAll entry.now).1, .table (health.readAll entry.now).2)

/-- Fresh accounts after a history of operations. -/
def after (history : List Entry) : Health :=
  history.foldl (fun health entry => (health.perform entry).1) {}

/-! ## The books -/

/-- An outcome with the label that its handle was given for, if the handle was ever given out. -/
structure Booking where
  label? : Option String
  failed : Bool
  time : Nat

/-- The label that an outcome counts under. -/
def Booking.label (booking : Booking) : String :=
  booking.label?.getD unregisteredLabel

/-- The times of the errors among outcomes. -/
def errorTimes (bookings : List Booking) : List Nat :=
  (bookings.filter (·.failed)).map (·.time)

theorem errorTimes_concat (bookings : List Booking) (booking : Booking) :
    errorTimes (bookings ++ [booking]) =
      errorTimes bookings ++ if booking.failed then [booking.time] else [] := by
  rw [errorTimes, List.filter_append, List.map_append]
  cases failed : booking.failed <;> simp [errorTimes, failed]

/-- Whether an error is recent. -/
def isRecent (now time : Nat) : Bool :=
  now - time ≤ recentWindow

/-- All registrations and all outcomes. -/
structure Books where
  registered : List String := []
  bookings : List Booking := []

namespace Books

/-- The label of a handle; the first handle is one. -/
def labelOf? (books : Books) (handle : Nat) : Option String :=
  if handle = 0 then none else books.registered[handle - 1]?

/-- The books with one operation more. -/
def enter (books : Books) (entry : Entry) : Books :=
  match entry.operation with
  | .register label => { books with registered := books.registered ++ [label] }
  | .record handle failed =>
    { books with
      bookings := books.bookings ++ [⟨books.labelOf? handle, failed, entry.now⟩] }
  | .read _ | .readAll => books

/-- The books of a history of operations. -/
def of (history : List Entry) : Books :=
  history.foldl enter {}

/-- The outcomes that count under a label. -/
def under (books : Books) (label : String) : List Booking :=
  books.bookings.filter (·.label = label)

/-- The figures of a label, counted from the first outcome on. -/
def stats (books : Books) (label : String) (now : Nat) : EndpointStats where
  calls := (books.under label).length
  errors := (errorTimes (books.under label)).length
  recentErrors := min maxRecentErrors ((errorTimes (books.under label)).countP (isRecent now))

/-- The labels that are listed: those ever registered, and the one of unknown handles once an
outcome was booked on such a handle. -/
def Lists (books : Books) (label : String) : Prop :=
  label ∈ books.registered ∨
    label = unregisteredLabel ∧ ∃ booking ∈ books.bookings, booking.label? = none

/-- An outcome counts under its label alone. -/
theorem under_concat (books : Books) (label? : Option String) (failed : Bool) (time : Nat)
    (label : String) :
    ({ books with bookings := books.bookings ++ [⟨label?, failed, time⟩] } : Books).under label =
      if label?.getD unregisteredLabel = label then
        books.under label ++ [⟨label?, failed, time⟩]
      else books.under label := by
  rw [under, List.filter_append]
  by_cases own : label?.getD unregisteredLabel = label <;> simp [under, Booking.label, own]

/-- When an outcome is booked its label is listed. -/
theorem lists_concat (books : Books) (handle : Nat) (failed : Bool) (time : Nat)
    (label : String) :
    ({ books with
        bookings := books.bookings ++ [⟨books.labelOf? handle, failed, time⟩] } : Books).Lists
        label ↔
      label = (books.labelOf? handle).getD unregisteredLabel ∨ books.Lists label := by
  unfold Lists
  cases given : books.labelOf? handle with
  | none =>
    simp only [List.mem_append, List.mem_singleton, Option.getD_none]
    constructor
    · rintro (member | ⟨same, _⟩)
      · exact .inr (.inl member)
      · exact .inl same
    · rintro (same | member | ⟨same, booking, member, unknown⟩)
      · exact .inr ⟨same, _, .inr rfl, rfl⟩
      · exact .inl member
      · exact .inr ⟨same, booking, .inl member, unknown⟩
  | some own =>
    -- The label was listed when the handle was given out.
    have member : own ∈ books.registered := by
      unfold labelOf? at given
      split at given
      · cases given
      · exact List.mem_of_getElem? given
    simp only [List.mem_append, List.mem_singleton, Option.getD_some]
    constructor
    · rintro (registered | ⟨same, booking, before | rfl, unknown⟩)
      · exact .inr (.inl registered)
      · exact .inr (.inr ⟨same, booking, before, unknown⟩)
      · cases unknown
    · rintro (rfl | registered | ⟨same, booking, before, unknown⟩)
      · exact .inl member
      · exact .inl registered
      · exact .inr ⟨same, booking, .inl before, unknown⟩

end Books

end Health

/-! ## What is remembered -/

namespace LabelCounters

open Health

variable {now later : Nat} {queue times : List Nat}

/-- In an ordered queue no error that is recent stands before one that is not. -/
theorem recent_of_le {time next : Nat} (recent : isRecent now time) (le : time ≤ next) :
    isRecent now next := by
  simp only [isRecent, decide_eq_true_eq] at recent ⊢
  omega

/-- An error that is not recent never is again. -/
theorem recent_of_later {time : Nat} (le : now ≤ later) (recent : isRecent later time) :
    isRecent now time := by
  simp only [isRecent, decide_eq_true_eq] at recent ⊢
  omega

/-- When more than the last so many are dropped, as many recent ones are left or that number. -/
theorem countP_drop (ordered : queue.Pairwise (· ≤ ·)) (now most : Nat) :
    (queue.drop (queue.length - most)).countP (isRecent now) =
      min most (queue.countP (isRecent now)) := by
  induction queue with
  | nil => simp
  | cons first rest inductionHypothesis =>
    obtain ⟨least, tail⟩ := List.pairwise_cons.mp ordered
    by_cases few : rest.length + 1 ≤ most
    · have bound : (first :: rest).countP (isRecent now) ≤ most :=
        List.countP_le_length.trans few
      rw [List.length_cons, Nat.sub_eq_zero_of_le few, List.drop_zero, min_eq_right bound]
    · have dropped : (first :: rest).length - most = (rest.length - most) + 1 := by
        rw [List.length_cons]
        omega
      rw [dropped, List.drop_succ_cons, inductionHypothesis tail, List.countP_cons]
      by_cases recent : isRecent now first
      · -- All that follow the first are recent too, and they alone are enough.
        have all : rest.countP (isRecent now) = rest.length :=
          List.countP_eq_length.mpr fun next member => recent_of_le recent (least next member)
        rw [all, if_pos recent]
        omega
      · rw [if_neg recent, Nat.add_zero]

/-- In an ordered queue those that are not recent are in front. -/
theorem dropWhile_eq_filter (ordered : queue.Pairwise (· ≤ ·)) (now : Nat) :
    queue.dropWhile (!isRecent now ·) = queue.filter (isRecent now) := by
  induction queue with
  | nil => rfl
  | cons first rest inductionHypothesis =>
    obtain ⟨least, tail⟩ := List.pairwise_cons.mp ordered
    by_cases recent : isRecent now first
    · have all : (first :: rest).filter (isRecent now) = first :: rest := by
        refine List.filter_eq_self.mpr fun next member => ?_
        obtain rfl | later := List.mem_cons.mp member
        · exact recent
        · exact recent_of_le recent (least next later)
      rw [all, List.dropWhile_cons_of_neg (by simpa using recent)]
    · rw [List.dropWhile_cons_of_pos (by simpa using recent), List.filter_cons_of_neg recent,
        inductionHypothesis tail]

/-- What is remembered are the recent ones among the last. -/
theorem remembered_eq (ordered : queue.Pairwise (· ≤ ·)) (now : Nat) :
    remembered now queue =
      (queue.drop (queue.length - maxRecentErrors)).filter (isRecent now) := by
  have stale : (fun time => decide (recentWindow < now - time)) = (!isRecent now ·) := by
    funext time
    rw [isRecent, ← decide_not]
    exact decide_eq_decide.mpr not_le.symm
  rw [remembered, stale, dropWhile_eq_filter (ordered.sublist (List.drop_sublist _ _))]

theorem remembered_sublist (now : Nat) (queue : List Nat) :
    (remembered now queue).Sublist queue :=
  (List.dropWhile_sublist _).trans (List.drop_sublist _ _)

/-- What is remembered holds as many of the errors that are recent later, or the greatest number
of them. -/
theorem countP_remembered (ordered : queue.Pairwise (· ≤ ·)) (le : now ≤ later) :
    (remembered now queue).countP (isRecent later) =
      min maxRecentErrors (queue.countP (isRecent later)) := by
  have both : ∀ time, (isRecent later time && isRecent now time) = isRecent later time := by
    intro time
    rw [Bool.and_eq_left_iff_imp]
    exact recent_of_later le
  rw [remembered_eq ordered, List.countP_filter, ← countP_drop ordered]
  simp only [both]

/-- All that is remembered is recent. -/
theorem length_remembered (ordered : queue.Pairwise (· ≤ ·)) (now : Nat) :
    (remembered now queue).length = min maxRecentErrors (queue.countP (isRecent now)) := by
  rw [remembered_eq ordered, ← List.countP_eq_length_filter, countP_drop ordered]

/-- A queue stands for all errors of a label: it is in order, and from now on as many of it are
recent as of all, up to the greatest number that is counted. -/
structure Recalls (now : Nat) (queue times : List Nat) : Prop where
  ordered : queue.Pairwise (· ≤ ·)
  past : ∀ time ∈ queue, time ≤ now
  counted : ∀ later, now ≤ later →
    min maxRecentErrors (queue.countP (isRecent later)) =
      min maxRecentErrors (times.countP (isRecent later))

namespace Recalls

theorem mono (recalls : Recalls now queue times) (le : now ≤ later) :
    Recalls later queue times where
  ordered := recalls.ordered
  past := fun time member => (recalls.past time member).trans le
  counted := fun last after => recalls.counted last (le.trans after)

/-- To forget by the two rules is not seen. -/
theorem remembered (recalls : Recalls now queue times) :
    Recalls now (remembered now queue) times where
  ordered := recalls.ordered.sublist (remembered_sublist now queue)
  past := fun time member => recalls.past time ((remembered_sublist now queue).mem member)
  counted := by
    intro later le
    rw [countP_remembered recalls.ordered le, ← recalls.counted later le]
    omega

theorem concat (recalls : Recalls now queue times) :
    Recalls now (queue ++ [now]) (times ++ [now]) where
  ordered := by
    refine List.pairwise_append.mpr ⟨recalls.ordered, List.pairwise_singleton _ _, ?_⟩
    intro time member last here
    rw [List.mem_singleton.mp here]
    exact recalls.past time member
  past := by
    intro time member
    obtain before | here := List.mem_append.mp member
    · exact recalls.past time before
    · exact (List.mem_singleton.mp here).le
  counted := by
    intro later le
    have same := recalls.counted later le
    rw [List.countP_append, List.countP_append]
    omega

end Recalls

/-- The counters of a label stand for all outcomes that count under it. -/
structure Counts (now : Nat) (counters : LabelCounters) (bookings : List Booking) : Prop where
  calls : counters.calls = bookings.length
  errors : counters.errors = (errorTimes bookings).length
  recalls : Recalls now counters.recent (errorTimes bookings)

namespace Counts

variable {counters : LabelCounters} {bookings : List Booking}

theorem mono (counts : Counts now counters bookings) (le : now ≤ later) :
    Counts later counters bookings :=
  ⟨counts.calls, counts.errors, counts.recalls.mono le⟩

theorem prune (counts : Counts now counters bookings) :
    Counts now (counters.prune now) bookings :=
  ⟨counts.calls, counts.errors, counts.recalls.remembered⟩

theorem record (counts : Counts now counters bookings) (label? : Option String) (failed : Bool) :
    Counts now (counters.record now failed) (bookings ++ [⟨label?, failed, now⟩]) where
  calls := by
    rw [calls_record, counts.calls, List.length_append, List.length_singleton]
  errors := by
    rw [errors_record, counts.errors, errorTimes_concat, List.length_append]
    cases failed <;> rfl
  recalls := by
    rw [errorTimes_concat]
    cases failed with
    | true => exact counts.recalls.concat.remembered
    | false => exact (List.append_nil (errorTimes bookings)).symm ▸ counts.recalls.remembered

/-- The figures are those that are counted from the first outcome on. -/
theorem stats (counts : Counts now counters bookings) :
    counters.stats now =
      ⟨bookings.length, (errorTimes bookings).length,
        min maxRecentErrors ((errorTimes bookings).countP (isRecent now))⟩ := by
  rw [LabelCounters.stats, counts.calls, counts.errors,
    length_remembered counts.recalls.ordered, counts.recalls.counted now le_rfl]

end Counts

end LabelCounters

namespace Health

open LabelCounters (Counts)

variable {health : Health} {books : Books} {history : List Entry} {now later : Nat}

/-! ## Accounts and books -/

/-- The accounts stand for the books. -/
structure Agrees (now : Nat) (health : Health) (books : Books) : Prop where
  labels : health.labels = books.registered
  ordered : health.IsOrdered
  lists : ∀ label, (health.counters.lookup label).isSome ↔ books.Lists label
  counts : ∀ label, Counts now (health.countersOf label) (books.under label)

theorem Agrees.mono (agrees : Agrees now health books) (le : now ≤ later) :
    Agrees later health books :=
  ⟨agrees.labels, agrees.ordered, agrees.lists, fun label => (agrees.counts label).mono le⟩

theorem agrees_nil : Agrees now {} {} where
  labels := rfl
  ordered := List.Pairwise.nil
  lists := by simp [Books.Lists]
  counts := fun _ => ⟨rfl, rfl, List.Pairwise.nil, nofun, fun _ _ => rfl⟩

/-- A handle has the same label in both. -/
theorem Agrees.labelOf (agrees : Agrees now health books) (handle : Nat) :
    health.labelOf handle = (books.labelOf? handle).getD unregisteredLabel := by
  rw [Health.labelOf, Books.labelOf?, agrees.labels]
  split <;> rfl

theorem Agrees.register (agrees : Agrees now health books) (label : String) :
    Agrees now (health.register label).1
      { books with registered := books.registered ++ [label] } where
  labels := congrArg (· ++ [label]) agrees.labels
  ordered := pairwise_adjust agrees.ordered _ _
  lists := by
    intro other
    have before := agrees.lists other
    simp only [Health.register, lookup_adjust agrees.ordered, Books.Lists, List.mem_append,
      List.mem_singleton] at before ⊢
    split
    · next same => simp [same]
    · next different => rw [before]; simp [different]
  counts := by
    intro other
    rw [countersOf_register agrees.ordered]
    exact agrees.counts other

theorem Agrees.record (agrees : Agrees now health books) (handle : Nat) (failed : Bool) :
    Agrees now (health.record handle failed now)
      { books with bookings := books.bookings ++ [⟨books.labelOf? handle, failed, now⟩] } where
  labels := agrees.labels
  ordered := isOrdered_record agrees.ordered handle failed now
  lists := by
    intro label
    rw [Books.lists_concat, Health.record, lookup_adjust agrees.ordered, agrees.labelOf]
    split
    · next own => simp [own]
    · next other => rw [or_iff_right other]; exact agrees.lists label
  counts := by
    intro label
    rw [countersOf_record agrees.ordered, agrees.labelOf, Books.under_concat]
    split
    · exact (agrees.counts label).record _ failed
    · exact agrees.counts label

/-- To forget under some labels what is no longer recent is not seen. -/
theorem Agrees.forget (agrees : Agrees now health books) (chosen : String → Prop)
    [DecidablePred chosen] :
    Agrees now
      { health with
        counters := health.counters.map fun entry =>
          (entry.1, if chosen entry.1 then entry.2.prune now else entry.2) } books where
  labels := agrees.labels
  ordered := by
    have ordered := agrees.ordered
    unfold IsOrdered at ordered ⊢
    rwa [List.map_map]
  lists := by
    intro label
    rw [lookup_map_values health.counters label fun own counters =>
      if chosen own then counters.prune now else counters, Option.isSome_map]
    exact agrees.lists label
  counts := by
    intro label
    have counts := agrees.counts label
    unfold countersOf at counts ⊢
    rw [lookup_map_values health.counters label fun own counters =>
      if chosen own then counters.prune now else counters]
    cases found : health.counters.lookup label with
    | none => rw [found] at counts; exact counts
    | some counters =>
      rw [found] at counts
      rw [Option.map_some, Option.getD_some]
      split
      · exact counts.prune
      · exact counts

/-- An operation that is entered in the books leaves both in agreement. -/
theorem Agrees.perform (operation : Operation) (agrees : Agrees now health books) :
    Agrees now (health.perform ⟨now, operation⟩).1 (books.enter ⟨now, operation⟩) := by
  cases operation with
  | register label => exact agrees.register label
  | record handle failed => exact agrees.record handle failed
  | read label =>
    have forgotten := agrees.forget (· = label)
    have same : (fun entry : String × LabelCounters =>
        (entry.1, if entry.1 = label then entry.2.prune now else entry.2)) =
        fun entry => if entry.1 = label then (entry.1, entry.2.prune now) else entry := by
      funext entry
      split <;> rfl
    rwa [same] at forgotten
  | readAll =>
    have forgotten := agrees.forget fun _ => True
    simp only [if_true] at forgotten
    exact forgotten

/-- Accounts with an ordered history stand for its books. -/
theorem agrees_after (inOrder : history.Pairwise (·.now ≤ ·.now))
    (past : ∀ entry ∈ history, entry.now ≤ now) :
    Agrees now (after history) (Books.of history) := by
  induction history using List.reverseRecOn generalizing now with
  | nil => exact agrees_nil
  | append_singleton earlier last inductionHypothesis =>
    obtain ⟨inOrder, -, before⟩ := List.pairwise_append.mp inOrder
    have agrees : Agrees last.now (after earlier) (Books.of earlier) :=
      inductionHypothesis inOrder fun entry member =>
        before entry member last (List.mem_singleton_self _)
    have le : last.now ≤ now := past last (by simp)
    rw [after, Books.of, List.foldl_append, List.foldl_append]
    exact (agrees.perform last.operation).mono le

/-! ## Answers -/

/-- The figures of a label are those in the books. -/
theorem Agrees.stats (agrees : Agrees now health books) (label : String) :
    health.stats label now = books.stats label now := by
  have counts := agrees.counts label
  unfold countersOf at counts
  unfold Health.stats
  cases found : health.counters.lookup label with
  | none => rw [found] at counts; exact counts.stats
  | some counters => rw [found] at counts; exact counts.stats

/-- All labels that the books list are listed, each with its figures. -/
theorem Agrees.snapshot (agrees : Agrees now health books) :
    ∃ labels : List String, labels.Pairwise (· < ·) ∧
      (∀ label, label ∈ labels ↔ books.Lists label) ∧
      health.snapshot now = labels.map fun label => (label, books.stats label now) := by
  refine ⟨health.counters.map Prod.fst, agrees.ordered, fun label => ?_, ?_⟩
  · rw [← agrees.lists label, List.lookup_isSome_iff, List.mem_map]
    exact exists_congr fun entry => and_congr_right fun _ => eq_comm.trans beq_iff_eq.symm
  · rw [Health.snapshot, List.map_map]
    refine List.map_congr_left fun entry member => ?_
    have found : health.counters.lookup entry.1 = some entry.2 :=
      (lookup_eq_some_iff_mem agrees.ordered.nodup).mpr member
    have figures : health.stats entry.1 now = entry.2.stats now := by rw [Health.stats, found]
    rw [Function.comp_apply, ← agrees.stats, figures]

/-- Accounts that stand for the same books give the same answers. -/
theorem Agrees.answer_eq {other : Health} (agrees : Agrees now health books)
    (others : Agrees now other books) (operation : Operation) :
    (other.perform ⟨now, operation⟩).2 = (health.perform ⟨now, operation⟩).2 := by
  cases operation with
  | register label =>
    exact congrArg (fun labels : List String => Answer.handle (labels.length + 1))
      (others.labels.trans agrees.labels.symm)
  | record handle failed => rfl
  | read label =>
    exact congrArg Answer.figures ((others.stats label).trans (agrees.stats label).symm)
  | readAll =>
    obtain ⟨labels, ordered, listed, rows⟩ := agrees.snapshot
    obtain ⟨otherLabels, otherOrdered, otherListed, otherRows⟩ := others.snapshot
    have same : otherLabels = labels :=
      otherOrdered.eq_of_mem_iff ordered fun label => (otherListed label).trans (listed label).symm
    exact congrArg Answer.table (otherRows.trans (same ▸ rows.symm))

/-- Readings leave no trace in the books. -/
theorem Books.foldl_enter_eq (books : Books) (history : List Entry) :
    history.foldl enter books =
      (history.filter fun entry => !entry.operation.isReading).foldl enter books := by
  induction history generalizing books with
  | nil => rfl
  | cons first rest inductionHypothesis =>
    obtain ⟨now, operation⟩ := first
    cases operation with
    | register label => exact inductionHypothesis _
    | record handle failed => exact inductionHypothesis _
    | read label => exact inductionHypothesis _
    | readAll => exact inductionHypothesis _

/-- Books in which the outcomes of one label cannot be told apart. -/
structure Books.Same (label : String) (books other : Books) : Prop where
  registered : books.registered = other.registered
  under : books.under label = other.under label

/-- An outcome is not seen under a label that it does not count under. -/
theorem Books.same_record {handle : Nat} {label : String}
    (different : (books.labelOf? handle).getD unregisteredLabel ≠ label) (failed : Bool)
    (time : Nat) : Same label books (books.enter ⟨time, .record handle failed⟩) :=
  ⟨rfl, ((under_concat _ _ _ _ _).trans (if_neg different)).symm⟩

theorem Books.Same.foldl_enter {label : String} {other : Books} (same : Same label books other)
    (history : List Entry) :
    Same label (history.foldl enter books) (history.foldl enter other) := by
  induction history generalizing books other with
  | nil => exact same
  | cons first rest inductionHypothesis =>
    refine inductionHypothesis ?_
    obtain ⟨now, operation⟩ := first
    cases operation with
    | register added =>
      exact ⟨congrArg (· ++ [added]) same.registered, same.under⟩
    | record handle failed =>
      have handles : books.labelOf? handle = other.labelOf? handle := by
        rw [labelOf?, labelOf?, same.registered]
      refine ⟨same.registered, ?_⟩
      simp only [enter, handles, under_concat, same.under]
    | read _ => exact same
    | readAll => exact same

/-- After any operations done in the order of their times, the figures of a label are those that
the books count anew: all outcomes and all errors, and the errors of the last ten minutes up to a
hundred. All labels that the books list are listed in order. Readings anywhere in the history change
no answer, and no outcome changes the figures of a label that it does not count under. -/
theorem answers_of_history (history : List Entry) (now : Nat)
    (inOrder : history.Pairwise (·.now ≤ ·.now)) (past : ∀ entry ∈ history, entry.now ≤ now) :
    (∀ label, ((after history).perform ⟨now, .read label⟩).2 =
      .figures ((Books.of history).stats label now)) ∧
    (∃ labels : List String, labels.Pairwise (· < ·) ∧
      (∀ label, label ∈ labels ↔ (Books.of history).Lists label) ∧
      ((after history).perform ⟨now, .readAll⟩).2 =
        .table (labels.map fun label => (label, (Books.of history).stats label now))) ∧
    (∀ label, ((after history).perform ⟨now, .register label⟩).2 =
      .handle ((Books.of history).registered.length + 1)) ∧
    (∀ other : List Entry, other.Pairwise (·.now ≤ ·.now) → (∀ entry ∈ other, entry.now ≤ now) →
      (other.filter fun entry => !entry.operation.isReading) =
        (history.filter fun entry => !entry.operation.isReading) →
      ∀ operation, ((after other).perform ⟨now, operation⟩).2 =
        ((after history).perform ⟨now, operation⟩).2) ∧
    ∀ earlier later time handle failed,
      history = earlier ++ ⟨time, .record handle failed⟩ :: later →
      ∀ label, (after earlier).labelOf handle ≠ label →
        ((after (earlier ++ later)).perform ⟨now, .read label⟩).2 =
          ((after history).perform ⟨now, .read label⟩).2 := by
  have agrees := agrees_after inOrder past
  refine ⟨fun label => congrArg Answer.figures (agrees.stats label), ?_, ?_, ?_, ?_⟩
  · obtain ⟨labels, ordered, listed, rows⟩ := agrees.snapshot
    exact ⟨labels, ordered, listed, congrArg Answer.table rows⟩
  · intro label
    exact congrArg (fun labels : List String => Answer.handle (labels.length + 1)) agrees.labels
  · intro other otherInOrder otherPast same operation
    have books : Books.of other = Books.of history := by
      rw [Books.of, Books.of, Books.foldl_enter_eq, same, ← Books.foldl_enter_eq]
    exact agrees.answer_eq (books ▸ agrees_after otherInOrder otherPast) operation
  · intro earlier later time handle failed here label different
    subst here
    have fewer : (earlier ++ later).Sublist (earlier ++ ⟨time, .record handle failed⟩ :: later) :=
      (List.sublist_cons_self _ _).append_left earlier
    have without := agrees_after (inOrder.sublist fewer) fun entry member =>
      past entry (fewer.mem member)
    have before : Agrees time (after earlier) (Books.of earlier) := by
      obtain ⟨inOrder, -, before⟩ := List.pairwise_append.mp inOrder
      exact agrees_after inOrder fun entry member => before entry member _ List.mem_cons_self
    have same : Books.Same label (Books.of (earlier ++ later))
        (Books.of (earlier ++ ⟨time, .record handle failed⟩ :: later)) := by
      rw [Books.of, Books.of, List.foldl_append, List.foldl_append, List.foldl_cons]
      exact (Books.same_record (before.labelOf handle ▸ different) failed time).foldl_enter later
    refine congrArg Answer.figures ((without.stats label).trans ?_)
    refine Eq.trans ?_ (agrees.stats label).symm
    rw [Books.stats, Books.stats, same.under]

/-- A burst of errors stays recent for ten minutes to the nanosecond; two readings and an outcome
on an unknown handle come in between. -/
theorem answers_after_burst :
    let history : List Entry :=
      [⟨0, .register "pow"⟩, ⟨0, .register "main"⟩] ++ List.replicate 103 ⟨5, .record 1 true⟩ ++
        [⟨6, .readAll⟩, ⟨6, .record 1 false⟩, ⟨7, .record 9 true⟩, ⟨600000000004, .read "pow"⟩,
          ⟨600000000005, .record 1 true⟩, ⟨600000000005, .record 2 true⟩]
    ((after history).perform ⟨600000000005, .read "pow"⟩).2 = .figures ⟨105, 104, 100⟩ ∧
      ((after history).perform ⟨600000000006, .read "pow"⟩).2 = .figures ⟨105, 104, 1⟩ := by
  intro history
  have inOrder : history.Pairwise (·.now ≤ ·.now) := by decide +kernel
  constructor
  · refine ((answers_of_history history 600000000005 inOrder (by decide +kernel)).1 "pow").trans ?_
    decide +kernel
  · refine ((answers_of_history history 600000000006 inOrder (by decide +kernel)).1 "pow").trans ?_
    decide +kernel

end Health

end Inclusion
