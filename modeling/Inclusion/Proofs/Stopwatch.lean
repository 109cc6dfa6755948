import Inclusion.Hash
import Inclusion.Stopwatch
import Inclusion.Proofs.Pairs
import Inclusion.Proofs.Ternary.Letters

/-!
# Whether a watch runs

A watch runs from its start until it is stopped or removed. An operation on one watch leaves the
others alone, and so do operations on the watches of different hashes, because a hash is known by
its written form.
-/

namespace Inclusion

/-- Different hashes are written differently. -/
theorem Hash.text_injective : Function.Injective Hash.text := by
  rintro ⟨left, _⟩ ⟨right, _⟩ same
  have letters : Trytes.letters left = Trytes.letters right := String.ofList_injective same
  obtain rfl := Trytes.letters_injective letters
  rfl

/-- A watch that is stopped, if it was not before. -/
def StopwatchEntry.halt (clock : Nat) (entry : StopwatchEntry) : StopwatchEntry :=
  { entry with stopped := some (entry.read clock).2 }

/-- A watch stands still once it is stopped. -/
theorem StopwatchEntry.halt_halt (clock : Nat) : halt clock ∘ halt clock = halt clock :=
  rfl

namespace Stopwatch

variable (watch : Stopwatch) (name other : String) (clock : Nat)

theorem find?_erase :
    (watch.erase name).find? other = if other = name then none else watch.find? other :=
  lookup_filter_ne watch.entries name other

theorem isRunning_erase :
    (watch.erase name).isRunning other = (other ≠ name && watch.isRunning other) := by
  rw [isRunning, isRunning, find?_erase]
  by_cases same : other = name <;> simp [same]

/-- A watch that was there already stays as it is. -/
theorem find?_start :
    (watch.start name clock).1.find? other =
      (watch.find? other).or (if other = name then some ⟨clock, none⟩ else none) := by
  unfold start
  split
  · next entry found =>
    by_cases same : other = name
    · simp [same, found]
    · simp [same]
  · rw [find?, find?, List.lookup_append, lookup_cons_eq_ite]
    rfl

/-- A watch that is removed and started anew runs. -/
theorem isRunning_restart :
    ((watch.erase name).start name clock).1.isRunning other =
      (other = name || watch.isRunning other) := by
  rw [isRunning, isRunning, find?_start, find?_erase]
  by_cases same : other = name <;> simp [same, StopwatchEntry.isRunning]

/-- A watch that is stopped is the only one that changes. -/
theorem find?_stop :
    (watch.stop name clock).1.find? other =
      if other = name then (watch.find? name).map (StopwatchEntry.halt clock)
      else watch.find? other := by
  unfold stop
  split
  · next started running =>
    have changed := lookup_map_change watch.entries name other fun entry =>
      { entry with stopped := some (max clock entry.started) }
    rw [find?] at running
    rw [running] at changed
    rw [find?, changed, find?, running]
    rfl
  · next idle =>
    by_cases same : other = name
    · rw [if_pos same, same]
      cases found : watch.find? name with
      | none => rfl
      | some entry =>
        obtain ⟨started, _ | ended⟩ := entry
        · exact absurd found (idle started)
        · rfl
    · rw [if_neg same]

theorem isRunning_stop :
    (watch.stop name clock).1.isRunning other = (other ≠ name && watch.isRunning other) := by
  rw [isRunning, isRunning, find?_stop]
  by_cases same : other = name
  · cases watch.find? name <;> simp [same, StopwatchEntry.isRunning, StopwatchEntry.halt]
  · simp [same]

/-- When the watches of several hashes are stopped, each is stopped, and no other watch changes. -/
theorem find?_foldl_stop (bundles : List Hash) :
    (bundles.foldl (fun watch bundle => (watch.stop bundle.text clock).1) watch).find? name =
      if ∃ bundle ∈ bundles, bundle.text = name then
        (watch.find? name).map (StopwatchEntry.halt clock)
      else watch.find? name := by
  induction bundles generalizing watch with
  | nil => simp
  | cons first rest inductionHypothesis =>
    rw [List.foldl_cons, inductionHypothesis, find?_stop]
    by_cases own : name = first.text
    · simp [own, Option.map_map, StopwatchEntry.halt_halt]
    · simp [own, Ne.symm own]

end Stopwatch

end Inclusion
