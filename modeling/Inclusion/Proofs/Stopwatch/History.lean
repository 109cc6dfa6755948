import Mathlib.Data.List.Induction
import Mathlib.Logic.Function.Basic
import Inclusion.Proofs.Stopwatch
import Inclusion.Stopwatch.Table

/-!
# What stopwatches answer

A stopwatch is compared with a map from names to watches, in which every operation touches the watch
of its own name and no other. The map is then compared with the history of the operations: the watch
of a name was begun by the start that found none, was stopped by the first stop after that, and is
gone once it was taken.

Kept as two numbers, the watches follow the map only as long as the clock never tells zero. Nothing
else is asked of the clock, which may stand still and run backwards.
-/

namespace Inclusion

namespace Stopwatch

/-- What is asked about the watch of a name. -/
inductive Operation where
  | start
  | stop
  | read
  | take
  | ask
deriving DecidableEq

/-- What is answered. -/
inductive Answer where
  | done (done : Bool)
  | times (times : Option (Nat × Nat))
deriving DecidableEq

/-- An operation, the name it is about and what the clock tells while it is done. -/
structure Entry where
  clock : Nat
  name : String
  operation : Operation
deriving DecidableEq

/-- The stopwatch after an operation, and its answer. -/
def perform (stopwatch : Stopwatch) (entry : Entry) : Stopwatch × Answer :=
  match entry.operation with
  | .start =>
    ((stopwatch.start entry.name entry.clock).1, .done (stopwatch.start entry.name entry.clock).2)
  | .stop =>
    ((stopwatch.stop entry.name entry.clock).1, .done (stopwatch.stop entry.name entry.clock).2)
  | .read => (stopwatch, .times (stopwatch.get entry.name entry.clock))
  | .take =>
    ((stopwatch.take entry.name entry.clock).1, .times (stopwatch.take entry.name entry.clock).2)
  | .ask => (stopwatch, .done (stopwatch.isRunning entry.name))

end Stopwatch

/-- The table after an operation, and its answer. -/
def WatchTable.perform (table : WatchTable) (entry : Stopwatch.Entry) :
    WatchTable × Stopwatch.Answer :=
  match entry.operation with
  | .start =>
    ((table.start entry.name entry.clock).1, .done (table.start entry.name entry.clock).2)
  | .stop =>
    ((table.stop entry.name entry.clock).1, .done (table.stop entry.name entry.clock).2)
  | .read => (table, .times (table.get entry.name entry.clock))
  | .take =>
    ((table.take entry.name entry.clock).1, .times (table.take entry.name entry.clock).2)
  | .ask => (table, .done (table.isRunning entry.name))

/-! ## The map -/

/-- The watches by their names, each with its start and with its stop once it is stopped. -/
abbrev WatchMap := String → Option StopwatchEntry

namespace WatchMap

/-- The map after an operation, and what is answered according to it. -/
def perform (watches : WatchMap) (entry : Stopwatch.Entry) : WatchMap × Stopwatch.Answer :=
  match entry.operation, watches entry.name with
  | .start, none => (Function.update watches entry.name (some ⟨entry.clock, none⟩), .done true)
  | .stop, some ⟨started, none⟩ =>
    (Function.update watches entry.name (some ⟨started, some (max entry.clock started)⟩),
      .done true)
  | .start, some _ | .stop, _ => (watches, .done false)
  | .read, watch => (watches, .times (watch.map (StopwatchEntry.read entry.clock)))
  | .take, watch =>
    (Function.update watches entry.name none,
      .times (watch.map (StopwatchEntry.read entry.clock)))
  | .ask, watch => (watches, .done (watch.any StopwatchEntry.isRunning))

end WatchMap

namespace Stopwatch

/-- The state after a history of operations, and all their answers. -/
def run {State : Type} (perform : State → Entry → State × Answer) (state : State) :
    List Entry → State × List Answer
  | [] => (state, [])
  | entry :: rest =>
    let (next, answer) := perform state entry
    let (final, answers) := run perform next rest
    (final, answer :: answers)

/-- States that follow the map through every operation follow it through every history. -/
theorem run_map {State : Type} {perform : State → Entry → State × Answer}
    {view : State → WatchMap} {Fits : Entry → Prop}
    (follows : ∀ state entry, Fits entry →
      (perform state entry).map view id = (view state).perform entry)
    (state : State) {history : List Entry} (fit : ∀ entry ∈ history, Fits entry) :
    (run perform state history).map view id = run WatchMap.perform (view state) history := by
  induction history generalizing state with
  | nil => rfl
  | cons entry rest inductionHypothesis =>
    obtain ⟨first, others⟩ := List.forall_mem_cons.mp fit
    have later := inductionHypothesis (perform state entry).1 others
    simp only [run, ← follows state entry first]
    rw [Prod.map_fst, ← later]
    rfl

/-- A stopwatch follows the map of what is found in it. -/
theorem perform_map (stopwatch : Stopwatch) (entry : Entry) :
    (stopwatch.perform entry).map find? id = WatchMap.perform stopwatch.find? entry := by
  obtain ⟨clock, name, operation⟩ := entry
  cases operation with
  | start =>
    cases found : stopwatch.find? name with
    | some watch => simp [perform, WatchMap.perform, start, found]
    | none =>
      have changed : (stopwatch.start name clock).1.find? =
          Function.update stopwatch.find? name (some ⟨clock, none⟩) := by
        funext other
        rw [find?_start, Function.update_apply]
        by_cases own : other = name <;> simp [own, found]
      have answered : (stopwatch.start name clock).2 = true := by simp [start, found]
      simp [perform, WatchMap.perform, found, changed, answered]
  | stop =>
    have changed : (stopwatch.stop name clock).1.find? = Function.update stopwatch.find? name
        ((stopwatch.find? name).map (StopwatchEntry.halt clock)) := by
      funext other
      rw [find?_stop, Function.update_apply]
    cases found : stopwatch.find? name with
    | none => simp [perform, WatchMap.perform, stop, found]
    | some watch =>
      obtain ⟨started, _ | stopped⟩ := watch
      · have answered : (stopwatch.stop name clock).2 = true := by simp [stop, found]
        simp [perform, WatchMap.perform, found, changed, answered, StopwatchEntry.halt,
          StopwatchEntry.read]
      · simp [perform, WatchMap.perform, stop, found]
  | read => rfl
  | take =>
    have changed : (stopwatch.erase name).find? =
        Function.update stopwatch.find? name none := by
      funext other
      rw [find?_erase, Function.update_apply]
    simp [perform, WatchMap.perform, take, changed, get]
  | ask => rfl

end Stopwatch

/-! ## The table -/

/-- The watch that is kept as two numbers. -/
def WatchTimes.watch (times : WatchTimes) : StopwatchEntry :=
  ⟨times.started, if times.stopped = 0 then none else some times.stopped⟩

theorem WatchTimes.read_watch (times : WatchTimes) (clock : Nat) :
    times.watch.read clock = times.read clock := by
  rw [StopwatchEntry.read, watch, read]
  split <;> rfl

theorem WatchTimes.isRunning_watch (times : WatchTimes) :
    times.watch.isRunning = times.isRunning := by
  rw [StopwatchEntry.isRunning, watch, isRunning]
  split <;> simp_all

namespace WatchTable

/-- The stopwatch whose watches are kept in a table. -/
def stopwatch (table : WatchTable) : Stopwatch :=
  ⟨table.entries.map fun entry => (entry.1, entry.2.watch)⟩

variable (table : WatchTable) (name : String) {clock : Nat}

theorem find?_stopwatch : table.stopwatch.find? name = (table.find? name).map WatchTimes.watch :=
  lookup_map_values table.entries name fun _ => WatchTimes.watch

theorem stopwatch_start :
    (table.start name clock).map stopwatch id = table.stopwatch.start name clock := by
  rw [start, Stopwatch.start, find?_stopwatch]
  cases table.find? name with
  | some times => rfl
  | none => simp [stopwatch, WatchTimes.watch]

/-- A stop leaves a trace if the clock does not tell zero. -/
theorem stopwatch_stop (positive : 0 < clock) :
    (table.stop name clock).map stopwatch id = table.stopwatch.stop name clock := by
  rw [stop, Stopwatch.stop, find?_stopwatch]
  cases table.find? name with
  | none => rfl
  | some times =>
    have told : ∀ started, max clock started ≠ 0 := by omega
    by_cases running : times.stopped = 0
    · simp only [if_pos running, Option.map_some, WatchTimes.watch, stopwatch, Prod.map_apply,
        List.map_map, id]
      congr 2
      refine List.map_congr_left fun entry _ => ?_
      by_cases own : entry.1 = name
      · simp [own, told]
      · simp [own]
    · simp [WatchTimes.watch, running]

theorem stopwatch_erase : (table.erase name).stopwatch = table.stopwatch.erase name := by
  rw [stopwatch, stopwatch, erase, Stopwatch.erase, List.filter_map]
  rfl

theorem get_stopwatch : table.stopwatch.get name clock = table.get name clock := by
  rw [Stopwatch.get, get, find?_stopwatch, Option.map_map]
  exact congrArg (fun read => (table.find? name).map read)
    (funext fun times => times.read_watch clock)

theorem isRunning_stopwatch : table.stopwatch.isRunning name = table.isRunning name := by
  rw [Stopwatch.isRunning, isRunning, find?_stopwatch, Option.any_map]
  exact congrArg (fun runs => (table.find? name).any runs) (funext WatchTimes.isRunning_watch)

theorem perform_stopwatch {entry : Stopwatch.Entry} (positive : 0 < entry.clock) :
    (table.perform entry).map stopwatch id = table.stopwatch.perform entry := by
  obtain ⟨clock, name, operation⟩ := entry
  cases operation with
  | start =>
    rw [Stopwatch.perform, ← table.stopwatch_start name]
    rfl
  | stop =>
    rw [Stopwatch.perform, ← table.stopwatch_stop name positive]
    rfl
  | read =>
    rw [Stopwatch.perform, table.get_stopwatch name]
    rfl
  | take =>
    rw [Stopwatch.perform, Stopwatch.take, table.get_stopwatch name, ← table.stopwatch_erase name]
    rfl
  | ask =>
    rw [Stopwatch.perform, table.isRunning_stopwatch name]
    rfl

/-- A table follows the map of its watches while the clock does not tell zero. -/
theorem perform_map {entry : Stopwatch.Entry} (positive : 0 < entry.clock) :
    (table.perform entry).map (fun after => after.stopwatch.find?) id =
      WatchMap.perform table.stopwatch.find? entry := by
  rw [← Stopwatch.perform_map, ← perform_stopwatch table positive]
  rfl

end WatchTable

/-! ## The history -/

namespace Stopwatch

/-- Nothing of the kind is done to a name. -/
def Lacks (name : String) (operation : Operation) (history : List Entry) : Prop :=
  ∀ entry ∈ history, entry.name = name → entry.operation ≠ operation

/-- A name was started and not taken since. -/
def IsPresent (name : String) (history : List Entry) : Prop :=
  ∃ before clock after, history = before ++ ⟨clock, name, .start⟩ :: after ∧ Lacks name .take after

/-- The start that counts is the one that did not find the name present. What comes after it does
not take the name. -/
def Began (name : String) (started : Nat) (history after : List Entry) : Prop :=
  ∃ before, history = before ++ ⟨started, name, .start⟩ :: after ∧ ¬ IsPresent name before ∧
    Lacks name .take after

/-- The first stop of a name. -/
def FirstStop (name : String) (clock : Nat) (history : List Entry) : Prop :=
  ∃ before after, history = before ++ ⟨clock, name, .stop⟩ :: after ∧ Lacks name .stop before

variable {name : String} {operation : Operation} {started clock : Nat} {history after : List Entry}
  {entry : Entry} {watches : WatchMap}

theorem lacks_nil : Lacks name operation [] := by
  simp [Lacks]

theorem lacks_cons : Lacks name operation (entry :: history) ↔
    (entry.name = name → entry.operation ≠ operation) ∧ Lacks name operation history :=
  List.forall_mem_cons

theorem lacks_append {other : List Entry} : Lacks name operation (history ++ other) ↔
    Lacks name operation history ∧ Lacks name operation other :=
  List.forall_mem_append

/-- A name is present after one more operation if that is its start, or if it was present and is
not taken. -/
theorem isPresent_concat : IsPresent name (history ++ [entry]) ↔
    (entry.name = name ∧ entry.operation = .start) ∨
      (IsPresent name history ∧ (entry.name = name → entry.operation ≠ .take)) := by
  constructor
  · rintro ⟨before, clock, after, same, lacks⟩
    rcases List.eq_nil_or_concat' after with rfl | ⟨between, last, rfl⟩
    · obtain ⟨-, same⟩ := List.append_inj' same rfl
      obtain rfl := List.singleton_inj.mp same
      exact .inl ⟨rfl, rfl⟩
    · rw [← List.cons_append, ← List.append_assoc] at same
      obtain ⟨rfl, ends⟩ := List.append_inj' same rfl
      obtain rfl := List.singleton_inj.mp ends
      obtain ⟨between, last⟩ := lacks_append.mp lacks
      exact .inr ⟨⟨before, clock, _, rfl, between⟩, (lacks_cons.mp last).1⟩
  · rintro (⟨rfl, starts⟩ | ⟨⟨before, clock, after, rfl, lacks⟩, kept⟩)
    · exact ⟨history, entry.clock, [], by rw [← starts], lacks_nil⟩
    · refine ⟨before, clock, after ++ [entry], by simp, ?_⟩
      exact lacks_append.mpr ⟨lacks, lacks_cons.mpr ⟨kept, lacks_nil⟩⟩

/-- One of the starts of a name that is present is the one that counts. -/
theorem exists_began (present : IsPresent name history) :
    ∃ started after, Began name started history after := by
  induction history using List.reverseRecOn with
  | nil =>
    obtain ⟨before, clock, after, same, -⟩ := present
    simp at same
  | append_singleton history entry inductionHypothesis =>
    by_cases already : IsPresent name history ∧ (entry.name = name → entry.operation ≠ .take)
    · obtain ⟨started, after, before, rfl, absent, lacks⟩ := inductionHypothesis already.1
      refine ⟨started, after ++ [entry], before, by simp, absent, ?_⟩
      exact lacks_append.mpr ⟨lacks, lacks_cons.mpr ⟨already.2, lacks_nil⟩⟩
    · obtain ⟨rfl, starts⟩ := (isPresent_concat.mp present).resolve_right already
      have absent : ¬ IsPresent entry.name history := by
        intro there
        exact already ⟨there, fun _ taken => by rw [starts] at taken; cases taken⟩
      exact ⟨entry.clock, [], history, by rw [← starts], absent, lacks_nil⟩

/-- Among any operations there is a first stop of a name or none at all. -/
theorem lacks_or_firstStop (name : String) (history : List Entry) :
    Lacks name .stop history ∨ ∃ clock, FirstStop name clock history := by
  induction history with
  | nil => exact .inl lacks_nil
  | cons entry rest inductionHypothesis =>
    by_cases stops : entry.name = name ∧ entry.operation = .stop
    · obtain ⟨rfl, stops⟩ := stops
      exact .inr ⟨entry.clock, [], rest, by rw [← stops]; rfl, lacks_nil⟩
    · have first : entry.name = name → entry.operation ≠ .stop := fun own same => stops ⟨own, same⟩
      rcases inductionHypothesis with lacks | ⟨clock, before, after, rfl, lacks⟩
      · exact .inl (lacks_cons.mpr ⟨first, lacks⟩)
      · exact .inr ⟨clock, entry :: before, after, rfl, lacks_cons.mpr ⟨first, lacks⟩⟩

/-! ## The map and the history -/

/-- The watches after a history that begins with none. -/
def recalled (history : List Entry) : WatchMap :=
  (run WatchMap.perform (fun _ => none) history).1

theorem run_append {State : Type} (perform : State → Entry → State × Answer) (state : State)
    (front back : List Entry) :
    (run perform state (front ++ back)).1 = (run perform (run perform state front).1 back).1 := by
  induction front generalizing state with
  | nil => rfl
  | cons entry rest inductionHypothesis => exact inductionHypothesis _

theorem recalled_concat (history : List Entry) (entry : Entry) :
    recalled (history ++ [entry]) = ((recalled history).perform entry).1 :=
  run_append _ _ _ _

/-- What is done to other names does not touch the watch of a name. -/
theorem perform_other (other : entry.name ≠ name) :
    (watches.perform entry).1 name = watches name := by
  fun_cases WatchMap.perform watches entry <;> simp [Function.update_of_ne other.symm]

/-- An operation depends on the watch of its name alone. -/
theorem perform_congr {others : WatchMap} (same : watches entry.name = others entry.name) :
    (watches.perform entry).1 entry.name = (others.perform entry).1 entry.name ∧
      (watches.perform entry).2 = (others.perform entry).2 := by
  simp only [WatchMap.perform, same]
  split <;> simp [same]

theorem isSome_perform : ((watches.perform entry).1 name).isSome ↔
    (entry.name = name ∧ entry.operation = .start) ∨
      ((watches name).isSome ∧ (entry.name = name → entry.operation ≠ .take)) := by
  by_cases own : entry.name = name
  · subst own
    fun_cases WatchMap.perform watches entry <;> simp_all
  · simp [perform_other own, own]

/-- A watch is kept for the names that are present. -/
theorem isSome_recalled (name : String) (history : List Entry) :
    (recalled history name).isSome ↔ IsPresent name history := by
  induction history using List.reverseRecOn with
  | nil => simp [recalled, run, IsPresent]
  | append_singleton history entry inductionHypothesis =>
    rw [recalled_concat, isSome_perform, isPresent_concat, inductionHypothesis]

/-- A watch stays as it is until it is taken, or stopped for the first time. -/
theorem perform_kept {watch : StopwatchEntry} (found : watches name = some watch)
    (untaken : entry.name = name → entry.operation ≠ .take)
    (unstopped : watch.stopped.isSome ∨ (entry.name = name → entry.operation ≠ .stop)) :
    (watches.perform entry).1 name = some watch := by
  by_cases own : entry.name = name
  · subst own
    obtain ⟨started, _ | stopped⟩ := watch <;>
      fun_cases WatchMap.perform watches entry <;> simp_all
  · rw [perform_other own, found]

theorem run_kept {watch : StopwatchEntry} (found : watches name = some watch)
    (untaken : Lacks name .take history)
    (unstopped : watch.stopped.isSome ∨ Lacks name .stop history) :
    (run WatchMap.perform watches history).1 name = some watch := by
  induction history generalizing watches with
  | nil => exact found
  | cons entry rest inductionHypothesis =>
    obtain ⟨first, later⟩ := lacks_cons.mp untaken
    have split := unstopped.imp_right lacks_cons.mp
    exact inductionHypothesis (perform_kept found first (split.imp_right And.left)) later
      (split.imp_right And.right)

/-- The watch of a name runs from the start that counts to the first stop after it. -/
theorem recalled_of_began (began : Began name started history after) :
    (Lacks name .stop after → recalled history name = some ⟨started, none⟩) ∧
      ∀ clock, FirstStop name clock after →
        recalled history name = some ⟨started, some (max clock started)⟩ := by
  obtain ⟨before, rfl, absent, untaken⟩ := began
  have nothing : recalled before name = none := by
    rwa [← isSome_recalled, Option.not_isSome_iff_eq_none] at absent
  have begun : recalled (before ++ [⟨started, name, .start⟩]) name = some ⟨started, none⟩ := by
    simp [recalled_concat, WatchMap.perform, nothing]
  have later : ∀ after, recalled (before ++ ⟨started, name, .start⟩ :: after) =
      (run WatchMap.perform (recalled (before ++ [⟨started, name, .start⟩])) after).1 := by
    intro after
    rw [List.append_cons, recalled, run_append]
    rfl
  constructor
  · intro unstopped
    rw [later]
    exact run_kept begun untaken (.inr unstopped)
  · rintro clock ⟨between, rest, rfl, unstopped⟩
    obtain ⟨untakenBetween, untakenLater⟩ := lacks_append.mp untaken
    have running := run_kept begun untakenBetween (.inr unstopped)
    have stopped : (run WatchMap.perform (recalled (before ++ [⟨started, name, .start⟩]))
        (between ++ [⟨clock, name, .stop⟩])).1 name = some ⟨started, some (max clock started)⟩ := by
      rw [run_append]
      simp [run, WatchMap.perform, running]
    rw [later, List.append_cons between, run_append]
    exact run_kept stopped (lacks_cons.mp untakenLater).2 (.inl rfl)

theorem recalled_eq_none_iff : recalled history name = none ↔ ¬ IsPresent name history := by
  rw [← isSome_recalled, Option.not_isSome_iff_eq_none]

/-- The watch of a name that is present has its start and its stop from the history. -/
theorem recalled_eq_some_iff {watch : StopwatchEntry} : recalled history name = some watch ↔
    ∃ after, Began name watch.started history after ∧
      ((Lacks name .stop after ∧ watch.stopped = none) ∨
        ∃ moment, FirstStop name moment after ∧
          watch.stopped = some (max moment watch.started)) := by
  constructor
  · intro found
    have present := (isSome_recalled name history).mp (Option.isSome_of_eq_some found)
    obtain ⟨started, after, began⟩ := exists_began present
    obtain ⟨running, stopped⟩ := recalled_of_began began
    rcases lacks_or_firstStop name after with unstopped | ⟨moment, first⟩
    · obtain rfl := Option.some.inj (found.symm.trans (running unstopped))
      exact ⟨after, began, .inl ⟨unstopped, rfl⟩⟩
    · obtain rfl := Option.some.inj (found.symm.trans (stopped moment first))
      exact ⟨after, began, .inr ⟨moment, first, rfl⟩⟩
  · obtain ⟨started, stopped⟩ := watch
    rintro ⟨after, began, ⟨unstopped, same⟩ | ⟨moment, first, same⟩⟩
    · obtain rfl : stopped = none := same
      exact (recalled_of_began began).1 unstopped
    · obtain rfl : stopped = some (max moment started) := same
      exact (recalled_of_began began).2 moment first

/-- The watch of a name comes of what was done to that name. -/
theorem recalled_filter (name : String) (history : List Entry) :
    recalled (history.filter fun entry => entry.name = name) name = recalled history name := by
  induction history using List.reverseRecOn with
  | nil => rfl
  | append_singleton history entry inductionHypothesis =>
    rw [List.filter_append, recalled_concat]
    by_cases own : entry.name = name
    · subst own
      have kept : [entry].filter (fun other => other.name = entry.name) = [entry] := by simp
      rw [kept, recalled_concat]
      exact (perform_congr inductionHypothesis).1
    · have dropped : [entry].filter (fun other => other.name = name) = [] := by simp [own]
      rw [dropped, List.append_nil, inductionHypothesis, perform_other own]

theorem answer_start (watches : WatchMap) (name : String) (clock : Nat) :
    (watches.perform ⟨clock, name, .start⟩).2 = .done (watches name).isNone := by
  simp only [WatchMap.perform]
  cases watches name <;> rfl

theorem answer_stop (watches : WatchMap) (name : String) (clock : Nat) :
    (watches.perform ⟨clock, name, .stop⟩).2 =
      .done ((watches name).any StopwatchEntry.isRunning) := by
  simp only [WatchMap.perform]
  rcases watches name with _ | ⟨started, _ | stopped⟩ <;> rfl

theorem runs_recalled_iff : (recalled history name).any StopwatchEntry.isRunning = true ↔
    ∃ started after, Began name started history after ∧ Lacks name .stop after := by
  constructor
  · intro runs
    cases found : recalled history name with
    | none => simp [found] at runs
    | some watch =>
      obtain ⟨after, began, ⟨unstopped, -⟩ | ⟨moment, first, stopped⟩⟩ :=
        recalled_eq_some_iff.mp found
      · exact ⟨_, after, began, unstopped⟩
      · simp [found, StopwatchEntry.isRunning, stopped] at runs
  · rintro ⟨started, after, began, unstopped⟩
    rw [(recalled_of_began began).1 unstopped]
    rfl

theorem read_recalled_iff {stopped : Nat} :
    (recalled history name).map (StopwatchEntry.read clock) = some (started, stopped) ↔
      ∃ after, Began name started history after ∧
        ((Lacks name .stop after ∧ stopped = max clock started) ∨
          ∃ moment, FirstStop name moment after ∧ stopped = max moment started) := by
  constructor
  · intro times
    obtain ⟨watch, found, told⟩ := Option.map_eq_some_iff.mp times
    obtain ⟨rfl, rfl⟩ := Prod.mk.inj told
    obtain ⟨after, began, ⟨unstopped, running⟩ | ⟨moment, first, halted⟩⟩ :=
      recalled_eq_some_iff.mp found
    · exact ⟨after, began, .inl ⟨unstopped, by rw [running]; rfl⟩⟩
    · exact ⟨after, began, .inr ⟨moment, first, by rw [halted]; rfl⟩⟩
  · rintro ⟨after, began, ⟨unstopped, rfl⟩ | ⟨moment, first, rfl⟩⟩
    · rw [(recalled_of_began began).1 unstopped]
      rfl
    · rw [(recalled_of_began began).2 moment first]
      rfl

/-- A stopwatch that begins without watches follows the map. -/
theorem run_stopwatch (history : List Entry) :
    (run perform {} history).map find? id = run WatchMap.perform (fun _ => none) history := by
  have follows : ∀ (stopwatch : Stopwatch) (entry : Entry), True →
      (stopwatch.perform entry).map find? id = WatchMap.perform stopwatch.find? entry :=
    fun stopwatch entry _ => stopwatch.perform_map entry
  exact run_map follows ⟨[]⟩ fun _ _ => trivial

/-- A table that begins without watches follows the map while the clock does not tell zero. -/
theorem run_table (positive : ∀ entry ∈ history, 0 < entry.clock) :
    (run WatchTable.perform {} history).map (fun table => table.stopwatch.find?) id =
      run WatchMap.perform (fun _ => none) history := by
  have follows : ∀ (table : WatchTable) (entry : Entry), 0 < entry.clock →
      (table.perform entry).map (fun after => after.stopwatch.find?) id =
        WatchMap.perform table.stopwatch.find? entry :=
    fun table _ told => table.perform_map told
  exact run_map follows ⟨[]⟩ positive

/-- What a table answers to an operation after a history. -/
def answer (history : List Entry) (entry : Entry) : Answer :=
  ((run WatchTable.perform {} history).1.perform entry).2

/-- It answers from the map. -/
theorem answer_eq (positive : ∀ entry ∈ history, 0 < entry.clock) (told : 0 < entry.clock) :
    answer history entry = ((recalled history).perform entry).2 := by
  have followed := congrArg Prod.fst (run_table positive)
  have answered := congrArg Prod.snd
    ((run WatchTable.perform {} history).1.perform_map told)
  rw [recalled, ← followed]
  exact answered

/-- Watches that are kept as two numbers answer like a map, and so do those of a system; the former
while no reading of the clock is zero, the latter whatever the clock tells, and both however it goes
back and forth. A start is answered by whether the name was not there; the name is there from a
start on until it is taken. It runs from the start that did not find it there up to the first stop
after that, which is the only stop with the answer that it was running. To read it, once or for the
last time, gives the time of that start and the time of that stop, for which the present one stands
in while it runs, and no stop is told to come before its start. Whatever is done to other names
changes none of these answers. -/
theorem answers_of_operations (history : List Entry)
    (positive : ∀ entry ∈ history, 0 < entry.clock) :
    (run WatchTable.perform {} history).map (fun table => table.stopwatch.find?) id =
      run WatchMap.perform (fun _ => none) history ∧
    (∀ history, (run perform {} history).map find? id =
      run WatchMap.perform (fun _ => none) history) ∧
    ∀ name clock, 0 < clock →
      (∃ done, answer history ⟨clock, name, .start⟩ = .done done ∧
        (done = true ↔ ¬ IsPresent name history)) ∧
      (∃ runs, answer history ⟨clock, name, .stop⟩ = .done runs ∧
        answer history ⟨clock, name, .ask⟩ = .done runs ∧
        (runs = true ↔ ∃ started after, Began name started history after ∧
          Lacks name .stop after)) ∧
      (∃ times, answer history ⟨clock, name, .read⟩ = .times times ∧
        answer history ⟨clock, name, .take⟩ = .times times ∧
        (times = none ↔ ¬ IsPresent name history) ∧
        ∀ started stopped, times = some (started, stopped) ↔
          ∃ after, Began name started history after ∧
            ((Lacks name .stop after ∧ stopped = max clock started) ∨
              ∃ moment, FirstStop name moment after ∧ stopped = max moment started)) ∧
      ∀ other, (∀ entry ∈ other, 0 < entry.clock) →
        (other.filter fun entry => entry.name = name) =
          (history.filter fun entry => entry.name = name) →
        ∀ operation, answer other ⟨clock, name, operation⟩ =
          answer history ⟨clock, name, operation⟩ := by
  refine ⟨run_table positive, run_stopwatch, fun name clock told => ?_⟩
  have recalls : ∀ operation, answer history ⟨clock, name, operation⟩ =
      ((recalled history).perform ⟨clock, name, operation⟩).2 := fun _ => answer_eq positive told
  refine ⟨?_, ?_, ?_, ?_⟩
  · refine ⟨(recalled history name).isNone, ?_, ?_⟩
    · rw [recalls, answer_start]
    · rw [Option.isNone_iff_eq_none, recalled_eq_none_iff]
  · refine ⟨(recalled history name).any StopwatchEntry.isRunning, ?_, recalls .ask, ?_⟩
    · rw [recalls, answer_stop]
    · exact runs_recalled_iff
  · refine ⟨(recalled history name).map (StopwatchEntry.read clock), recalls .read, recalls .take,
      ?_, fun started stopped => read_recalled_iff⟩
    rw [Option.map_eq_none_iff, recalled_eq_none_iff]
  · intro other otherPositive same operation
    have own : recalled other (Entry.mk clock name operation).name =
        recalled history (Entry.mk clock name operation).name := by
      rw [← recalled_filter, same, recalled_filter]
    rw [recalls operation, ← (perform_congr own).2]
    exact answer_eq otherPositive told

/-- A watch that is stopped twice and started again while the clock goes back has the times of its
first start and its first stop, and that is not before the start. -/
theorem answers_of_operations_backwards :
    let history : List Entry :=
      [⟨5, "B", .start⟩, ⟨9, "C", .start⟩, ⟨3, "B", .stop⟩, ⟨8, "B", .stop⟩, ⟨8, "B", .start⟩]
    answer history ⟨1, "B", .read⟩ = .times (some (5, 5)) ∧
      answer history ⟨1, "C", .read⟩ = .times (some (9, 9)) := by
  intro history
  obtain ⟨-, -, asked⟩ := answers_of_operations history (by decide)
  have absent : ∀ name, ¬ IsPresent name [] := by simp [IsPresent]
  constructor
  · obtain ⟨-, -, ⟨times, read, -, -, told⟩, -⟩ := asked "B" 1 (by decide)
    rw [read, (told 5 5).mpr]
    refine ⟨_, ⟨[], rfl, absent "B", by unfold Lacks; decide⟩, .inr ⟨3, ?_, rfl⟩⟩
    exact ⟨[⟨9, "C", .start⟩], _, rfl, by unfold Lacks; decide⟩
  · obtain ⟨-, -, ⟨times, read, -, -, told⟩, -⟩ := asked "C" 1 (by decide)
    rw [read, (told 9 9).mpr]
    refine ⟨_, ⟨[⟨5, "B", .start⟩], rfl, ?_, by unfold Lacks; decide⟩,
      .inl ⟨by unfold Lacks; decide, rfl⟩⟩
    rintro ⟨before, clock, after, same, -⟩
    simp [List.cons_eq_append_iff] at same

/-- A stop that the clock tells as zero is not kept. -/
example : (run WatchTable.perform {} [⟨0, "B", .start⟩, ⟨0, "B", .stop⟩, ⟨7, "B", .ask⟩]).2 =
    [.done true, .done true, .done true] := by decide

end Stopwatch

end Inclusion
