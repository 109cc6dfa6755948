import Inclusion.Proofs.Task.Sound

/-!
# Runs of a task

A run is any finite sequence of steps that a task can take, each with surroundings of its own. It
keeps of every step what the task was before it and what the step asked for, so that what was seen
of a run is read off its entries. Whatever the steps of a task preserve holds at the end of a run;
soundness does.
-/

namespace Inclusion.Task

/-- A step of a run. -/
structure Entry where
  before : Task
  around : Surroundings
  event : Event
  effects : List Effect

/-- Zero or more steps of a task. -/
inductive Run : Task → List Entry → Task → Prop where
  | refl {task} : Run task [] task
  | step {start entries task around event next effects} (prior : Run start entries task)
      (move : Move around task event (next, effects)) :
      Run start (entries ++ [⟨task, around, event, effects⟩]) next

/-- All that was seen of a run, in order. -/
def seen (entries : List Entry) : List Effect :=
  entries.flatMap Entry.effects

@[simp] theorem seen_nil : seen [] = [] := rfl

@[simp] theorem seen_append (first second : List Entry) :
    seen (first ++ second) = seen first ++ seen second :=
  List.flatMap_append

@[simp] theorem seen_single (entry : Entry) : seen [entry] = entry.effects := by
  simp [seen]

/-- A run goes on where another has ended. -/
theorem Run.trans {start middle final : Task} {first second : List Entry}
    (before : Run start first middle) (after : Run middle second final) :
    Run start (first ++ second) final := by
  induction after with
  | refl => simpa using before
  | step prior move inductionHypothesis =>
    simpa [List.append_assoc] using Run.step inductionHypothesis move

/-- Without a step a task stays what it is. -/
theorem Run.eq_of_nil {start final : Task} (run : Run start [] final) : final = start := by
  generalize none_seen : ([] : List Entry) = entries at run
  cases run with
  | refl => rfl
  | step => simp at none_seen

/-- A run leads up to its last step. -/
theorem Run.last {start final : Task} {entries : List Entry} {entry : Entry}
    (run : Run start (entries ++ [entry]) final) :
    Run start entries entry.before ∧
      Move entry.around entry.before entry.event (final, entry.effects) := by
  generalize all : entries ++ [entry] = whole at run
  cases run with
  | refl => simp at all
  | step prior move =>
    obtain ⟨rfl, same⟩ := List.append_inj' all rfl
    obtain rfl := List.singleton_inj.mp same
    exact ⟨prior, move⟩

/-- What every step preserves holds at the end of a run. -/
theorem Run.preserves {property : Task → Prop} {start final : Task} {entries : List Entry}
    (run : Run start entries final)
    (preserved : ∀ {around task event turn}, Move around task event turn → property task →
      property turn.1)
    (initial : property start) : property final := by
  induction run with
  | refl => exact initial
  | step prior move inductionHypothesis => exact preserved move inductionHypothesis

/-- A sound task stays sound. -/
theorem Run.sound {start final : Task} {entries : List Entry} (run : Run start entries final)
    (sound : start.Sound) : final.Sound :=
  run.preserves (fun move before => before.step move) sound

/-- Every entry of a run is a step of the task. -/
theorem Run.moved {start final : Task} {entries : List Entry} (run : Run start entries final)
    {entry : Entry} (member : entry ∈ entries) :
    ∃ next, Move entry.around entry.before entry.event (next, entry.effects) := by
  induction run with
  | refl => cases member
  | @step entries task around event next effects prior move inductionHypothesis =>
    obtain earlier | last := List.mem_append.mp member
    · exact inductionHypothesis earlier
    · obtain rfl := List.mem_singleton.mp last
      exact ⟨next, move⟩

/-- What is seen of a run is seen of one of its steps. -/
theorem mem_seen {entries : List Entry} {effect : Effect} :
    effect ∈ seen entries ↔ ∃ entry ∈ entries, effect ∈ entry.effects :=
  List.mem_flatMap

/-- The run of given events, each in surroundings of its own, if they can happen one after another.
-/
def replay (task : Task) : List (Surroundings × Event) → Option (List Entry × Task)
  | [] => some ([], task)
  | (around, event) :: rest =>
    match task.step around event with
    | none => none
    | some (next, effects) =>
      (replay next rest).map fun (entries, final) =>
        (⟨task, around, event, effects⟩ :: entries, final)

theorem run_of_replay {events : List (Surroundings × Event)} {start final : Task}
    {entries : List Entry} (replayed : start.replay events = some (entries, final)) :
    Run start entries final := by
  induction events generalizing start entries with
  | nil =>
    obtain ⟨rfl, rfl⟩ := Prod.mk.inj (Option.some.inj replayed)
    exact .refl
  | cons happening rest inductionHypothesis =>
    simp only [replay] at replayed
    split at replayed
    · cases replayed
    · next next effects stepped =>
      obtain ⟨⟨later, last⟩, after, same⟩ := Option.map_eq_some_iff.mp replayed
      obtain ⟨rfl, rfl⟩ := Prod.mk.inj same
      exact (Run.step .refl (step_eq_some_iff.mp stepped)).trans (inductionHypothesis after)

end Inclusion.Task
