import Inclusion.Proofs.System.Step

/-!
# Runs of a system and of its tasks

A run of a system is any finite sequence of its steps, whatever the order in which its parts act,
whatever the nodes answer and whatever its users do. Seen from a task, such a run is a run of the
task: the steps carried to it, in order, and the signals of the monitor that it hears in between.
What is seen of the task is the same in both.

A run may begin at any system in which a task, if it is there, has done nothing yet; a system that
has just been set up is one, with respect to all the tasks that it will ever start.
-/

namespace Inclusion.System

/-- A step of a run. -/
structure Moment where
  before : System
  event : Event
  effects : List Effect

/-- Zero or more steps of a system. -/
inductive Run : System → List Moment → System → Prop where
  | refl {system} : Run system [] system
  | step {start trace system event next effects} (prior : Run start trace system)
      (stepped : system.step event = some (next, effects)) :
      Run start (trace ++ [⟨system, event, effects⟩]) next

/-- What is seen of a task in a run. -/
def seen (id : Nat) (trace : List Moment) : List Task.Effect :=
  trace.flatMap fun moment => taskEffects id moment.effects

/-- The task of a number, if it is there, has done nothing yet. -/
def Fresh (system : System) (id : Nat) : Prop :=
  ∀ task, system.task? id = some task → task.IsNew

@[simp] theorem seen_append (id : Nat) (first second : List Moment) :
    seen id (first ++ second) = seen id first ++ seen id second :=
  List.flatMap_append

@[simp] theorem seen_single (id : Nat) (moment : Moment) :
    seen id [moment] = taskEffects id moment.effects := by
  simp [seen]

/-- A system without tasks is fresh with respect to all that it may start. -/
theorem fresh_of_no_tasks {system : System} (none_yet : system.tasks = []) (id : Nat) :
    system.Fresh id := by
  intro task present
  simp [task?, none_yet] at present

/-- A run goes on where another has ended. -/
theorem Run.trans {start middle final : System} {first second : List Moment}
    (before : Run start first middle) (after : Run middle second final) :
    Run start (first ++ second) final := by
  induction after with
  | refl => simpa using before
  | step prior stepped inductionHypothesis =>
    simpa [List.append_assoc] using Run.step inductionHypothesis stepped

/-- Every moment of a run is a step of the system. -/
theorem Run.stepped {start final : System} {trace : List Moment} (run : Run start trace final)
    {moment : Moment} (member : moment ∈ trace) :
    ∃ next, moment.before.step moment.event = some (next, moment.effects) := by
  induction run with
  | refl => cases member
  | @step trace system event next effects prior stepped inductionHypothesis =>
    obtain earlier | last := List.mem_append.mp member
    · exact inductionHypothesis earlier
    · obtain rfl := List.mem_singleton.mp last
      exact ⟨next, stepped⟩

/-- A run leads up to each of its moments. -/
theorem Run.split {start final : System} {before after : List Moment} {moment : Moment}
    (run : Run start (before ++ moment :: after) final) :
    Run start before moment.before ∧
      ∃ next, moment.before.step moment.event = some (next, moment.effects) := by
  generalize all : before ++ moment :: after = trace at run
  induction run generalizing after with
  | refl => simp at all
  | @step trace system event next effects prior stepped inductionHypothesis =>
    obtain rfl | ⟨earlier, last, rfl⟩ := List.eq_nil_or_concat' after
    · obtain ⟨rfl, same⟩ := List.append_inj' all rfl
      obtain rfl := List.cons.inj same |>.1
      exact ⟨prior, next, stepped⟩
    · rw [← List.cons_append, ← List.append_assoc] at all
      exact inductionHypothesis (List.append_inj' all rfl).1

/-- A run goes on from each of its moments. -/
theorem Run.resume {start final : System} {before after : List Moment} {moment : Moment}
    (run : Run start (before ++ moment :: after) final) :
    ∃ next, moment.before.step moment.event = some (next, moment.effects) ∧
      Run next after final := by
  generalize all : before ++ moment :: after = trace at run
  induction run generalizing after with
  | refl => simp at all
  | @step trace system event next effects prior stepped inductionHypothesis =>
    obtain rfl | ⟨earlier, last, rfl⟩ := List.eq_nil_or_concat' after
    · obtain ⟨rfl, same⟩ := List.append_inj' all rfl
      obtain rfl := List.cons.inj same |>.1
      exact ⟨next, stepped, .refl⟩
    · rw [← List.cons_append, ← List.append_assoc] at all
      obtain ⟨whole, same⟩ := List.append_inj' all rfl
      obtain rfl := List.cons.inj same |>.1
      obtain ⟨resumed, again, later⟩ := inductionHypothesis whole
      exact ⟨resumed, again, later.step stepped⟩

/-- The run of given events, if they can happen one after another. -/
def replay (system : System) : List Event → Option (List Moment × System)
  | [] => some ([], system)
  | event :: rest =>
    match system.step event with
    | none => none
    | some (next, effects) =>
      (replay next rest).map fun (trace, final) => (⟨system, event, effects⟩ :: trace, final)

theorem run_of_replay {events : List Event} {start final : System} {trace : List Moment}
    (replayed : start.replay events = some (trace, final)) : Run start trace final := by
  induction events generalizing start trace with
  | nil =>
    obtain ⟨rfl, rfl⟩ := Prod.mk.inj (Option.some.inj replayed)
    exact .refl
  | cons event rest inductionHypothesis =>
    simp only [replay] at replayed
    split at replayed
    · cases replayed
    · next next effects stepped =>
      obtain ⟨⟨later, last⟩, after, same⟩ := Option.map_eq_some_iff.mp replayed
      obtain ⟨rfl, rfl⟩ := Prod.mk.inj same
      exact (Run.step .refl stepped).trans (inductionHypothesis after)

/-- What happens in it are those events. -/
theorem events_of_replay {events : List Event} {start final : System} {trace : List Moment}
    (replayed : start.replay events = some (trace, final)) : trace.map Moment.event = events := by
  induction events generalizing start trace with
  | nil =>
    obtain ⟨rfl, -⟩ := Prod.mk.inj (Option.some.inj replayed)
    rfl
  | cons event rest inductionHypothesis =>
    simp only [replay] at replayed
    split at replayed
    · cases replayed
    · obtain ⟨⟨later, last⟩, after, same⟩ := Option.map_eq_some_iff.mp replayed
      obtain ⟨rfl, rfl⟩ := Prod.mk.inj same
      rw [List.map_cons, inductionHypothesis after]

/-- The run of events that can happen one after another. -/
theorem run_replay {events : List Event} {start : System}
    (possible : (start.replay events).isSome = true) :
    Run start ((start.replay events).get possible).1 ((start.replay events).get possible).2 :=
  run_of_replay (Option.some_get possible).symm

/-- A run with what was found out about it by replaying it. -/
theorem exists_replayed_run {events : List Event} {start : System}
    {check : List Moment → System → Bool}
    (checked : (start.replay events).any (fun (trace, final) => check trace final) = true) :
    ∃ trace final, Run start trace final ∧ check trace final = true := by
  obtain ⟨⟨trace, final⟩, replayed, checked⟩ := (Option.any_eq_true ..).mp checked
  exact ⟨trace, final, run_of_replay replayed, checked⟩

/-- A run with what was found out about it and a task by replaying it. -/
theorem exists_run {events : List Event} {start : System} {id : Nat}
    {check : List Moment → System → Task → Bool}
    (checked : (start.replay events).any (fun (trace, final) =>
      (final.task? id).any (check trace final)) = true) :
    ∃ trace final task, Run start trace final ∧ final.task? id = some task ∧
      check trace final task = true := by
  obtain ⟨trace, final, run, checked⟩ := @exists_replayed_run events start
    (fun trace final => (final.task? id).any (check trace final)) checked
  obtain ⟨task, present, checked⟩ := (Option.any_eq_true ..).mp checked
  exact ⟨trace, final, task, run, present, checked⟩

/-- A run that goes on with further events, with what was found out by replaying both. -/
theorem exists_runs {first second : List Event} {start : System} {id : Nat}
    {check : Task → List Moment → System → Bool}
    (checked : (start.replay first).any (fun (_, middle) => (middle.task? id).any fun task =>
      (middle.replay second).any fun (after, final) => check task after final) = true) :
    ∃ before middle task after final, Run start before middle ∧ middle.task? id = some task ∧
      Run middle after final ∧ check task after final = true := by
  obtain ⟨before, middle, task, run, present, checked⟩ := @exists_run first start id
    (fun _ middle task => (middle.replay second).any fun (after, final) => check task after final)
    checked
  obtain ⟨⟨after, final⟩, replayed, checked⟩ := (Option.any_eq_true ..).mp checked
  exact ⟨before, middle, task, after, final, run, present, run_of_replay replayed, checked⟩

/-! ## The run of a task in the run of a system -/

/-- A step of a task is carried to it at a moment of the system. -/
structure Moment.Shows (moment : Moment) (id : Nat) (entry : Task.Entry) : Prop where
  carries : Carries moment.before moment.event id entry.event
  before : moment.before.task? id = some entry.before
  around : entry.around = moment.before.surroundings

/-- A run of a task in which every step is carried to it at a moment of a run of the system, or is
a signal that it hears. -/
structure Follows (id : Nat) (trace : List Moment) (task : Task) (entries : List Task.Entry)
    (final : Task) : Prop where
  run : Task.Run task entries final
  seen : Task.seen entries = seen id trace
  shown : ∀ entry ∈ entries, (∃ ticket signal, entry.event = .signalled ticket signal) ∨
    ∃ moment ∈ trace, moment.Shows id entry

variable {start final : System} {trace : List Moment} {id : Nat}

theorem Follows.nothing (task : Task) : Follows id [] task [] task where
  run := .refl
  seen := rfl
  shown := by simp

/-- Hearing a signal adds a step to the run of the task, of which nothing is seen or said. -/
theorem Follows.hears {task middle heard : Task} {entries : List Task.Entry}
    (follows : Follows id trace task entries middle) (hears : middle.Hears heard) :
    ∃ longer, Follows id trace task longer heard ∧
      Task.dialogue longer = Task.dialogue entries := by
  cases hears with
  | nothing => exact ⟨entries, follows, rfl⟩
  | @signal ticket signal stands =>
    -- What surrounds a task makes no difference to a signal.
    have told : Task.Move ⟨0, 0, 0⟩ middle (.signalled ticket signal) _ := .signalled stands
    refine ⟨_, ⟨follows.run.step told, by simp [follows.seen], ?_⟩, ?_⟩
    · intro entry member
      obtain earlier | last := List.mem_append.mp member
      · exact follows.shown entry earlier
      · obtain rfl := List.mem_singleton.mp last
        exact .inl ⟨_, _, rfl⟩
    · rw [Task.dialogue_concat]
      exact List.append_nil _

/-- A moment at which nothing is seen of the task changes nothing. -/
theorem Follows.aside {task middle : Task} {entries : List Task.Entry}
    (follows : Follows id trace task entries middle) (moment : Moment)
    (silent : taskEffects id moment.effects = []) :
    Follows id (trace ++ [moment]) task entries middle where
  run := follows.run
  seen := by simp [follows.seen, silent]
  shown := by
    intro entry member
    refine (follows.shown entry member).imp_right ?_
    rintro ⟨earlier, member, carried⟩
    exact ⟨earlier, List.mem_append_left _ member, carried⟩

/-- A moment whose event is carried to the task adds its step. -/
theorem Follows.carried {system : System} {event : Event} {turn : Turn} {taskEvent : Task.Event}
    {task middle next : Task} {entries : List Task.Entry} {effects : List Task.Effect}
    (follows : Follows id trace task entries middle) (carries : Carries system event id taskEvent)
    (carried : system.Carried id taskEvent turn middle next effects) :
    Follows id (trace ++ [⟨system, event, turn.2⟩]) task
      (entries ++ [⟨middle, system.surroundings, taskEvent, effects⟩]) next where
  run := follows.run.step carried.move
  seen := by
    rw [Task.seen_append, seen_append, follows.seen, Task.seen_single, seen_single, carried.seen,
      if_pos rfl]
  shown := by
    intro entry member
    obtain earlier | last := List.mem_append.mp member
    · refine (follows.shown entry earlier).imp_right ?_
      rintro ⟨moment, member, shows⟩
      exact ⟨moment, List.mem_append_left _ member, shows⟩
    · obtain rfl := List.mem_singleton.mp last
      exact .inr ⟨_, List.mem_append_right _ (List.mem_singleton_self _),
        carries, carried.present, rfl⟩

/-- A task that is there takes the step that is carried to it, if one is, and hears what it is told
then. -/
theorem Touch.takes {system : System} {event : Event} {turn : Turn}
    (touch : Touch system event turn) {task : Task} (present : system.task? id = some task) :
    (∃ taskEvent next effects heard, Carries system event id taskEvent ∧
        system.Carried id taskEvent turn task next effects ∧ next.Hears heard ∧
        turn.1.task? id = some heard) ∨
      taskEffects id turn.2 = [] ∧ ∃ heard, task.Hears heard ∧ turn.1.task? id = some heard := by
  cases touch with
  | aside aside => exact .inr ⟨aside.silent id, aside.hears.told id task present⟩
  | @carried other taskEvent before after effects carries carried =>
    by_cases same : other = id
    · subst same
      obtain rfl := Option.some.inj (carried.present.symm.trans present)
      have moved : (system.setTask other after).task? other = some after := by
        simp [task?_setTask, present]
      obtain ⟨heard, hears, placed⟩ := carried.hears.told other after moved
      exact .inl ⟨taskEvent, after, effects, heard, carries, carried, hears, placed⟩
    · have unmoved : (system.setTask other after).task? id = some task := by
        simp [task?_setTask, same, present]
      have silent := carried.seen id
      rw [if_neg same] at silent
      exact .inr ⟨silent, carried.hears.told id task unmoved⟩
  | started tasks new now silent =>
    refine .inr ⟨silent id, task, .nothing, ?_⟩
    rw [task?_concat tasks, if_neg (ne_of_present present), present]

/-- A run of a system is a run of each task that is there at its beginning. -/
theorem Run.follows (run : Run start trace final) {task : Task}
    (present : start.task? id = some task) :
    ∃ entries last, Follows id trace task entries last ∧ final.task? id = some last := by
  induction run with
  | refl => exact ⟨[], task, .nothing task, present⟩
  | @step trace system event next effects prior stepped inductionHypothesis =>
    obtain ⟨entries, middle, follows, found⟩ := inductionHypothesis
    obtain ⟨taskEvent, after, taskEffects, heard, carries, carried, hears, placed⟩ |
      ⟨silent, heard, hears, placed⟩ := (touch stepped).takes found
    · obtain ⟨entries, follows, -⟩ := (follows.carried carries carried).hears hears
      exact ⟨entries, heard, follows, placed⟩
    · obtain ⟨entries, follows, -⟩ := (follows.aside ⟨system, event, effects⟩ silent).hears hears
      exact ⟨entries, heard, follows, placed⟩

/-! ## The beginning of a task -/

/-- A step that starts no task leaves a task that is not there where it is. -/
theorem Touch.absent {system : System} {event : Event} {turn : Turn}
    (touch : Touch system event turn) (absent : system.task? id = none) :
    turn.1.task? id = none ∨ ∃ task, turn.1.task? id = some task ∧ task.IsNew := by
  cases touch with
  | aside aside => exact .inl (aside.hears.absent absent)
  | carried carries carried => exact .inl (carried.absent absent)
  | @started record engine trytes tasks new now silent =>
    rw [task?_concat tasks]
    split
    · exact .inr ⟨record.task, rfl, new⟩
    · exact .inl absent

/-- Nothing is seen of a task that is not there. -/
theorem Touch.silent {system : System} {event : Event} {turn : Turn}
    (touch : Touch system event turn) (absent : system.task? id = none) :
    taskEffects id turn.2 = [] := by
  cases touch with
  | aside aside => exact aside.silent id
  | @carried other taskEvent before after effects carries carried =>
    have different : other ≠ id := by
      rintro rfl
      simp [carried.present] at absent
    rw [carried.seen, if_neg different]
  | started tasks new now silent => exact silent id

/-- A task that is there at the end of a run from a fresh system was new at some point of the run,
and nothing was seen of it before. -/
theorem Run.begins (run : Run start trace final) (fresh : start.Fresh id) :
    (final.task? id = none ∧ seen id trace = []) ∨
      ∃ middle before after initial, trace = before ++ after ∧ seen id before = [] ∧
        middle.task? id = some initial ∧ initial.IsNew ∧ Run middle after final := by
  induction run with
  | refl =>
    cases present : start.task? id with
    | none => exact .inl ⟨rfl, rfl⟩
    | some initial =>
      exact .inr ⟨start, [], [], initial, rfl, rfl, present, fresh initial present, .refl⟩
  | @step trace system event next effects prior stepped inductionHypothesis =>
    obtain ⟨absent, silent⟩ |
      ⟨middle, before, after, initial, split, silent, present, new, later⟩ := inductionHypothesis
    · have unseen : seen id (trace ++ [⟨system, event, effects⟩]) = [] := by
        rw [seen_append, silent, seen_single, (touch stepped).silent absent]
        rfl
      obtain absent | ⟨initial, present, new⟩ := (touch stepped).absent absent
      · exact .inl ⟨absent, unseen⟩
      · exact .inr ⟨next, _, [], initial, (List.append_nil _).symm, unseen, present, new, .refl⟩
    · refine .inr ⟨middle, before, _, initial, ?_, silent, present, new, later.step stepped⟩
      rw [split, List.append_assoc]

/-- A run from a fresh system is a run of each task that it starts, from its very beginning. -/
theorem Run.follows_new (run : Run start trace final) (fresh : start.Fresh id) {task : Task}
    (present : final.task? id = some task) :
    ∃ initial entries, initial.IsNew ∧ Follows id trace initial entries task := by
  obtain ⟨absent, -⟩ | ⟨middle, before, after, initial, rfl, silent, there, new, later⟩ :=
    run.begins fresh
  · simp [absent] at present
  · obtain ⟨entries, last, follows, found⟩ := later.follows there
    obtain rfl := Option.some.inj (found.symm.trans present)
    refine ⟨initial, entries, new, follows.run, ?_, ?_⟩
    · rw [follows.seen, seen_append, silent, List.nil_append]
    · intro entry member
      refine (follows.shown entry member).imp_right ?_
      rintro ⟨moment, member, shows⟩
      exact ⟨moment, List.mem_append_right _ member, shows⟩

/-! ## The clock -/

/-- The clock does not go back. -/
theorem Touch.now {system : System} {event : Event} {turn : Turn}
    (touch : Touch system event turn) : system.now ≤ turn.1.now := by
  cases touch with
  | aside aside => exact aside.hears.now
  | carried carries carried => exact carried.hears.now
  | started tasks new now silent => exact Nat.le_of_eq now.symm

theorem Run.now (run : Run start trace final) :
    ∀ moment ∈ trace, moment.before.now ≤ final.now := by
  induction run with
  | refl => simp
  | @step trace system event next effects prior stepped inductionHypothesis =>
    have later : system.now ≤ next.now := (touch stepped).now
    intro moment member
    obtain earlier | last := List.mem_append.mp member
    · exact Nat.le_trans (inductionHypothesis moment earlier) later
    · obtain rfl := List.mem_singleton.mp last
      exact later

/-! ## A small system -/

/-- A client of a single node. -/
def soleClient : Client where
  set := ⟨"node", [⟨"node", .ofSeconds 10⟩], by simp, by decide⟩
  handles := [1]

/-- A system with one engine, whose task has been started and has done nothing yet. All calls go to
one node. -/
def small (config : ConfirmerConfig) (forced : Nat) : System where
  clients := [soleClient]
  monitor := { config := {} }
  engines := [{
    config
    promoteAddress := .null
    general := 0
    tipSelection := 0
    proofOfWork := 0
    running := true
    activeLoops := 4
    bundle := some .null }]
  tasks := [⟨0, .start ⟨.null, .null, config, 900000⟩
    ⟨.null, "", .null, 0, "", 0, 0, 0, .null, .null, .null, "", 0, 0, 0, ""⟩ [] 0 forced⟩]

/-- Its task is the only one and is new. -/
theorem fresh_small (config : ConfirmerConfig) (forced : Nat) : (small config forced).Fresh 0 := by
  intro task present
  obtain rfl := Option.some.inj present
  exact ⟨_, _, _, _, _, rfl⟩

end Inclusion.System
