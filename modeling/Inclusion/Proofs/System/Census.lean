import Mathlib.Algebra.GroupWithZero.Nat
import Mathlib.Algebra.Order.BigOperators.Group.List
import Mathlib.Algebra.Order.Ring.Nat
import Inclusion.Proofs.System.Gauges
import Inclusion.Proofs.System.Teardown

/-!
# The loops that are counted

An engine counts its live loops, and the system counts the checking loops at work. Both counts are
right at every moment: a count changes when a loop begins or ends, and each loop does so once. As an
engine is at work on one task at most, its count is that of this task, and it is zero when there is
none. A start that is refused changes nothing.

A task that is not told to end has all its loops, unless one has ended before its time because a
time computed from the settings does not exist.
-/

namespace Inclusion

/-! ## Sums over a list -/

section Sums

variable {α : Type} {items : List α} {weight : α → Nat} {place : Nat} {item : α}

/-- A sum changes by the weight of the item that is changed. -/
theorem sum_map_modify (change : α → α) (found : items[place]? = some item) :
    ((items.modify place change).map weight).sum + weight item =
      (items.map weight).sum + weight (change item) := by
  induction items generalizing place with
  | nil => simp at found
  | cons first rest inductionHypothesis =>
    cases place with
    | zero =>
      obtain rfl : first = item := by simpa using found
      simp only [List.modify_zero_cons, List.map_cons, List.sum_cons]
      omega
    | succ place =>
      have there : rest[place]? = some item := by simpa using found
      have changed := inductionHypothesis there
      simp only [List.modify_succ_cons, List.map_cons, List.sum_cons]
      omega

theorem sum_map_eq_zero (none_weighs : ∀ item ∈ items, weight item = 0) :
    (items.map weight).sum = 0 :=
  List.sum_eq_zero (List.forall_mem_map.mpr none_weighs)

/-- What one item weighs is part of the sum. -/
theorem le_sum_map (found : items[place]? = some item) : weight item ≤ (items.map weight).sum :=
  List.le_sum_of_mem (List.mem_map_of_mem (List.mem_of_getElem? found))

/-- A sum is the weight of one item if no other weighs anything. -/
theorem sum_map_eq_of_alone (found : items[place]? = some item)
    (others : ∀ other rival, items[other]? = some rival → other ≠ place → weight rival = 0) :
    (items.map weight).sum = weight item := by
  induction items generalizing place with
  | nil => simp at found
  | cons first rest inductionHypothesis =>
    rw [List.map_cons, List.sum_cons]
    cases place with
    | zero =>
      obtain rfl : first = item := by simpa using found
      have none_left : ∀ rival ∈ rest, weight rival = 0 := by
        intro rival member
        obtain ⟨other, there⟩ := List.mem_iff_getElem?.mp member
        exact others (other + 1) rival (by simpa using there) (Nat.succ_ne_zero other)
      rw [sum_map_eq_zero none_left, Nat.add_zero]
    | succ place =>
      rw [others 0 first rfl (Nat.succ_ne_zero place).symm, Nat.zero_add]
      have here : rest[place]? = some item := by simpa using found
      refine inductionHypothesis here fun other rival there different => ?_
      exact others (other + 1) rival (by simpa using there) (by omega)

/-- To count is to add up ones. -/
theorem sum_map_toNat (check : α → Bool) :
    (items.map fun item => (check item).toNat).sum = items.countP check := by
  induction items with
  | nil => rfl
  | cons first rest inductionHypothesis =>
    rw [List.map_cons, List.sum_cons, inductionHypothesis, List.countP_cons]
    cases check first <;> simp [Nat.add_comm]

end Sums

/-! ## Tasks and their engines -/

namespace Task

/-- A signal ends no loop. -/
theorem Hears.isLive {task heard : Task} (hears : task.Hears heard) :
    heard.isLive = task.isLive := by
  cases hears with
  | nothing => rfl
  | signal stands => exact isLive_supervisor rfl rfl rfl (by simp [stands]) nofun

theorem Hears.isChecking {task heard : Task} (hears : task.Hears heard) :
    heard.isChecking = task.isChecking := by
  cases hears with
  | nothing => rfl
  | signal stands => rfl

/-- An engine counts one loop less for each that ends. -/
theorem activeLoops_onEngine (effects : List Effect) (engine : Engine) :
    (onEngine effects engine).activeLoops = engine.activeLoops - (ended effects).length := by
  induction effects generalizing engine with
  | nil => rfl
  | cons first rest inductionHypothesis =>
    refine (inductionHypothesis (first.onEngine engine)).trans ?_
    cases first <;> simp [Effect.onEngine, ended, Nat.sub_sub, Nat.add_comm]

end Task

namespace System

/-- The live loops of the tasks of an engine. -/
def loopsOf (engine : Nat) (record : TaskRecord) : Nat :=
  if record.engine = engine then record.task.liveLoops else 0

/-- Whether the checking loop of a task is at work, as a number. -/
def checks (record : TaskRecord) : Nat :=
  record.task.isChecking.toNat

/-- The engines count the live loops of their tasks. -/
def Tallied (system : System) : Prop :=
  ∀ engine present, system.engines[engine]? = some present →
    present.activeLoops = (system.tasks.map (loopsOf engine)).sum

/-- The load is the number of checking loops at work. -/
def Loaded (system : System) : Prop :=
  system.load = (system.tasks.map checks).sum

variable {start system next final : System} {trace : List Moment} {event : Event} {turn : Turn}
  {engine id : Nat} {task : Task} {present : Engine}

/-! ## The loops of an engine -/

/-- What tasks hear changes nothing that a signal leaves alone. -/
theorem Hears.map_tasks {α : Type} (measure : Task → α)
    (same : ∀ {task heard : Task}, task.Hears heard → measure heard = measure task)
    (hears : system.Hears next) :
    (next.tasks.map fun record => measure record.task) =
      system.tasks.map fun record => measure record.task := by
  refine List.ext_getElem? fun id => ?_
  have measured : ∀ system : System, (system.tasks.map fun record => measure record.task)[id]? =
      (system.task? id).map measure := by
    intro system
    rw [List.getElem?_map, task?, Option.map_map]
    rfl
  rw [measured, measured]
  cases present : system.task? id with
  | none => rw [hears.absent present]
  | some task =>
    obtain ⟨heard, hears, there⟩ := hears.told id task present
    rw [there, Option.map_some, Option.map_some, same hears]

theorem loopsOf_hears (hears : system.Hears next)
    (crew : next.tasks.map TaskRecord.engine = system.tasks.map TaskRecord.engine) (engine : Nat) :
    next.tasks.map (loopsOf engine) = system.tasks.map (loopsOf engine) := by
  have apart : ∀ tasks : List TaskRecord, tasks.map (loopsOf engine) =
      List.zipWith (fun own loops => if own = engine then loops else 0)
        (tasks.map TaskRecord.engine) (tasks.map fun record => record.task.liveLoops) := by
    intro tasks
    rw [List.zipWith_map, List.zipWith_self]
    rfl
  have loops := hears.map_tasks Task.liveLoops fun hears => by
    rw [Task.liveLoops, Task.liveLoops, hears.isLive]
  rw [apart, apart, crew, loops]

/-- What tasks hear changes no count. -/
theorem Tallied.of_same (tallied : system.Tallied) (engines : next.engines = system.engines)
    (hears : system.Hears next)
    (crew : next.tasks.map TaskRecord.engine = system.tasks.map TaskRecord.engine) :
    next.Tallied := by
  intro engine present there
  rw [loopsOf_hears hears crew]
  exact tallied engine present (engines ▸ there)

/-- When a task takes a step, its engine counts one loop less for each that has ended. -/
theorem Tallied.worked (tallied : system.Tallied) {record : TaskRecord}
    {around : Task.Surroundings} {taskEvent : Task.Event} {effects : List Task.Effect}
    (found : system.tasks[id]? = some record)
    (move : Task.Move around record.task taskEvent (task, effects))
    (engines : next.engines = system.engines.modify record.engine (Task.onEngine effects))
    (hears : (system.setTask id task).Hears next)
    (crew : next.tasks.map TaskRecord.engine = system.tasks.map TaskRecord.engine) :
    next.Tallied := by
  intro engine after there
  rw [loopsOf_hears hears (crew.trans (crew_setTask system id task).symm)]
  have changed : ((system.setTask id task).tasks.map (loopsOf engine)).sum + loopsOf engine record =
      (system.tasks.map (loopsOf engine)).sum + loopsOf engine { record with task } :=
    sum_map_modify (fun record => { record with task }) found
  have parting : task.liveLoops + (Task.ended effects).length = record.task.liveLoops :=
    move.parting.liveLoops
  rw [engines, List.getElem?_modify] at there
  obtain ⟨present, here, same⟩ := Option.map_eq_some_iff.mp there
  have before := tallied engine present here
  by_cases own : record.engine = engine
  · rw [if_pos own] at same
    simp only [loopsOf, if_pos own] at changed
    rw [← same, Task.activeLoops_onEngine, before]
    have part : loopsOf engine record ≤ _ := le_sum_map found
    simp only [loopsOf, if_pos own] at part
    omega
  · rw [if_neg own] at same
    simp only [loopsOf, if_neg own] at changed
    rw [← same]
    refine before.trans ?_
    exact changed.symm

/-- All loops of a task that is started are live. -/
theorem Tallied.started (tallied : system.Tallied) {change : Engine → Engine}
    (engines : next.engines = system.engines.modify engine change)
    (begun : ∀ present, (change present).activeLoops = present.activeLoops + 4)
    (tasks : next.tasks = system.tasks ++ [⟨engine, task⟩]) (new : task.IsNew) : next.Tallied := by
  obtain ⟨setup, tail, trytes, now, forced, rfl⟩ := new
  intro other after there
  rw [engines, List.getElem?_modify] at there
  obtain ⟨present, here, same⟩ := Option.map_eq_some_iff.mp there
  rw [tasks, List.map_append, List.sum_append, ← tallied other present here, ← same]
  by_cases own : engine = other
  · rw [if_pos own, begun]
    simp only [loopsOf, List.map_cons, if_pos own]
    rfl
  · rw [if_neg own]
    simp [loopsOf, own]

theorem Tallied.step (tallied : system.Tallied) (progress : Progress system event turn) :
    turn.1.Tallied := by
  cases progress with
  | waited settled forward due after => exact after ▸ tallied
  | kept frames => exact tallied.of_same frames.engines frames.hears frames.crew
  | @worked id taskEvent record next effects carries present move frames =>
    exact tallied.worked present move frames.engines frames.hears
      (frames.crew.trans (crew_setTask system id next))
  | started found free new now clients calls engines tasks =>
    exact tallied.started engines (fun _ => rfl) tasks new
  | overflowed shown after =>
    rw [after]
    intro engine present there
    rw [modifyEngine, List.getElem?_modify] at there
    obtain ⟨before, here, rfl⟩ := Option.map_eq_some_iff.mp there
    have same := tallied engine before here
    split <;> exact same

/-! ## The load -/

/-- If one task is all that anything is seen of, that is all that is seen of tasks. -/
theorem allTaskEffects_of_alone {effects : List Effect}
    (alone : ∀ other, other ≠ id → taskEffects other effects = []) :
    allTaskEffects effects = taskEffects id effects := by
  induction effects with
  | nil => rfl
  | cons first rest inductionHypothesis =>
    have later : ∀ other, other ≠ id → taskEffects other rest = [] := by
      intro other different
      exact (List.append_eq_nil_iff.mp
        ((taskEffects_append other [first] rest).symm.trans (alone other different))).2
    have rests := inductionHypothesis later
    cases first with
    | task owner effect =>
      by_cases own : owner = id
      · simp only [allTaskEffects, taskEffects, List.filterMap_cons, if_pos own] at rests ⊢
        rw [rests]
      · have seen := alone owner own
        simp [taskEffects] at seen
    | _ => exact rests

/-- The load changes by what is seen of tasks. -/
theorem load_step (stepped : system.step event = some turn) :
    turn.1.load = Task.onLoad (allTaskEffects turn.2) system.load := by
  cases alone : event.isWatchOp with
  | false => exact (step_gauged stepped alone).load
  | true =>
    cases event with
    | stopwatchStarted | stopwatchStopped | stopwatchTaken =>
      obtain rfl := Option.some.inj stepped
      rfl
    | _ => cases alone

theorem load_of_silent (stepped : system.step event = some turn)
    (silent : ∀ id, taskEffects id turn.2 = []) : turn.1.load = system.load := by
  rw [load_step stepped, allTaskEffects_of_alone fun other _ => silent other, silent 0]
  rfl

theorem checks_hears (hears : system.Hears next) :
    next.tasks.map checks = system.tasks.map checks :=
  hears.map_tasks (fun task => task.isChecking.toNat) fun hears => by rw [hears.isChecking]

theorem Loaded.step (loaded : system.Loaded) (stepped : system.step event = some turn) :
    turn.1.Loaded := by
  cases touch stepped with
  | aside aside =>
    rw [Loaded, load_of_silent stepped aside.silent, checks_hears aside.hears]
    exact loaded
  | @carried id taskEvent task next effects carries carried =>
    have seen : allTaskEffects turn.2 = effects := by
      rw [@allTaskEffects_of_alone id turn.2 fun other different => by
        rw [carried.seen, if_neg different.symm], carried.seen, if_pos rfl]
    obtain ⟨record, found, rfl⟩ := Option.map_eq_some_iff.mp carried.present
    have changed : ((system.setTask id next).tasks.map checks).sum + checks record =
        (system.tasks.map checks).sum + checks { record with task := next } :=
      sum_map_modify (fun record => { record with task := next }) found
    have part : checks record ≤ (system.tasks.map checks).sum := le_sum_map found
    have weighs := carried.move.weighs system.load (loaded.symm ▸ part)
    rw [Loaded, load_step stepped, seen, checks_hears carried.hears]
    rw [Loaded] at loaded
    simp only [checks] at changed weighs loaded ⊢
    omega
  | started tasks new now silent =>
    obtain ⟨setup, tail, trytes, now, forced, fresh⟩ := new
    rw [Loaded, load_of_silent stepped silent, tasks, List.map_append, List.sum_append, ← loaded]
    simp [checks, fresh, Task.isChecking, Task.start]

/-! ## Runs -/

theorem Run.tallied (run : Run start trace final) (fresh : start.IsSetUp)
    (uncounted : ∀ engine ∈ start.engines, engine.activeLoops = 0) : final.Tallied := by
  induction run with
  | refl =>
    intro engine present there
    rw [fresh.tasks]
    exact uncounted present (List.mem_of_getElem? there)
  | step prior stepped inductionHypothesis =>
    exact inductionHypothesis.step (progress (prior.converses fresh.toIsNew).numbered stepped)

theorem Run.loaded (run : Run start trace final) (new : start.IsNew) (unloaded : start.load = 0) :
    final.Loaded := by
  induction run with
  | refl => rw [Loaded, new.tasks, unloaded]; rfl
  | step prior stepped inductionHypothesis => exact inductionHypothesis.step stepped

/-- The count of an engine is that of the task that it works on. -/
theorem Employs.loopsOf (employs : Employs trace system)
    (sound : ∀ id task, system.task? id = some task → task.Sound)
    (works : system.WorksOn engine id) (found : system.task? id = some task) :
    (system.tasks.map (loopsOf engine)).sum = task.liveLoops := by
  obtain ⟨record, there, rfl⟩ := Option.map_eq_some_iff.mp found
  have own : record.engine = engine := by simpa [engine?, there] using works.own
  rw [sum_map_eq_of_alone there, System.loopsOf, if_pos own]
  intro other rival at_other different
  rw [System.loopsOf]
  split
  · next belongs =>
    have present : system.task? other = some rival.task := task?_of_record at_other
    refine ((sound other _ present).liveLoops_eq_zero_iff).mpr (eq_true_of_ne_false fun lives => ?_)
    have rivals : system.WorksOn engine other :=
      ⟨by simp [engine?, at_other, belongs], _, present, lives⟩
    exact different (Nat.le_antisymm (employs.last _ _ _ works rivals.own)
      (employs.last _ _ _ rivals works.own))
  · rfl

theorem loopsOf_eq_zero (sound : ∀ id task, system.task? id = some task → task.Sound)
    (idle : ∀ id, ¬system.WorksOn engine id) : (system.tasks.map (loopsOf engine)).sum = 0 := by
  refine sum_map_eq_zero fun record member => ?_
  rw [loopsOf]
  split
  · next belongs =>
    obtain ⟨id, there⟩ := List.mem_iff_getElem?.mp member
    have present : system.task? id = some record.task := task?_of_record there
    refine ((sound id _ present).liveLoops_eq_zero_iff).mpr (eq_true_of_ne_false fun lives => ?_)
    exact idle id ⟨by simp [engine?, there, belongs], _, present, lives⟩
  · rfl

/-- The loops of a task that have not ended, and why others have before their time. -/
theorem Run.lives (run : Run start trace final) (new : start.IsNew)
    (present : final.task? id = some task) (party : Party) :
    (task.isLive party = true ↔ .loopEnded party ∉ seen id trace) ∧
      (task.stop = false → .loopEnded party ∈ seen id trace →
        (∃ kind, .brokeOff kind ∈ seen id trace) ∨ ∃ moment ∈ trace,
          task.setup.config.promotabilityInterval? moment.before.load = none) := by
  obtain ⟨initial, entries, initial_new, follows⟩ :=
    run.follows_new (fresh_of_no_tasks new.tasks id) present
  have begun : ∀ party, initial.isLive party = true := by
    obtain ⟨setup, tail, trytes, now, forced, rfl⟩ := initial_new
    intro party
    cases party <;> rfl
  have lives := follows.run.isLive_iff begun party
  rw [follows.seen] at lives
  refine ⟨lives, fun going ended => ?_⟩
  have gone : task.isLive party = false := eq_false_of_ne_true fun live => lives.mp live ended
  obtain ⟨kind, -, broke⟩ | ⟨entry, member, left, no_interval⟩ :=
    follows.run.live (new_shape initial_new).1 begun going gone
  · exact .inl ⟨kind, follows.seen ▸ broke⟩
  · refine .inr ?_
    obtain ⟨ticket, signal, signalled⟩ | ⟨moment, there, shows⟩ := follows.shown entry member
    · obtain ⟨next, move⟩ := follows.run.moved member
      rw [signalled] at move
      generalize entry.effects = effects at move left
      cases move
      cases left
    · rw [follows.run.setup entry member, shows.around] at no_interval
      exact ⟨moment, there, no_interval⟩

/-! ## Starts that are refused -/

/-- What comes of a start. -/
theorem start_cases {trytes : List String} (found : system.engines[engine]? = some present)
    (stepped : system.step (.start engine trytes) = some turn) :
    (∃ cause, tailOf trytes = .error cause ∧
        turn = (system, [.startRefused engine (.invalidBundle cause)])) ∨
      (∃ tail, tailOf trytes = .ok tail) ∧
        (present.running = true ∧ turn = (system, [.startRefused engine .alreadyRunning]) ∨
          present.running = false ∧ ∀ error, .startRefused engine error ∉ turn.2) := by
  cases move_of_step stepped with
  | invalid _ unread => exact .inl ⟨_, unread, rfl⟩
  | busy again read running =>
    obtain rfl := Option.some.inj (found.symm.trans again)
    exact .inr ⟨⟨_, read⟩, .inl ⟨running, rfl⟩⟩
  | overflowed again read free | started again read free =>
    obtain rfl := Option.some.inj (found.symm.trans again)
    exact .inr ⟨⟨_, read⟩, .inr ⟨free, by simp⟩⟩

/-- Something comes of every start. -/
theorem start_isSome (found : system.engines[engine]? = some present) (trytes : List String) :
    ∃ turn, system.step (.start engine trytes) = some turn := by
  cases read : tailOf trytes with
  | error cause => exact ⟨_, step_eq_some_iff.mpr (.invalid found read)⟩
  | ok tail =>
    cases free : present.running with
    | true => exact ⟨_, step_eq_some_iff.mpr (.busy found read free)⟩
    | false =>
      cases made : present.task? tail trytes system.now with
      | none => exact ⟨_, step_eq_some_iff.mpr (.overflowed found read free made)⟩
      | some task => exact ⟨_, step_eq_some_iff.mpr (.started found read free made)⟩

theorem invalidBundle_iff {trytes : List String} (found : system.engines[engine]? = some present)
    (stepped : system.step (.start engine trytes) = some turn) (cause : TrytesError) :
    .startRefused engine (.invalidBundle cause) ∈ turn.2 ↔ tailOf trytes = .error cause := by
  obtain ⟨other, unread, rfl⟩ | ⟨⟨tail, read⟩, ⟨-, rfl⟩ | ⟨-, begun⟩⟩ := start_cases found stepped
  · simp [unread, eq_comm]
  · simp [read]
  · simp [read, begun]

theorem alreadyRunning_iff {trytes : List String} (found : system.engines[engine]? = some present)
    (stepped : system.step (.start engine trytes) = some turn) :
    .startRefused engine .alreadyRunning ∈ turn.2 ↔
      (∃ tail, tailOf trytes = .ok tail) ∧ present.running = true := by
  obtain ⟨other, unread, rfl⟩ | ⟨read, ⟨running, rfl⟩ | ⟨free, begun⟩⟩ := start_cases found stepped
  · simp [unread]
  · simp [read, running]
  · simp [free, begun]

theorem same_of_refused {trytes : List String} (found : system.engines[engine]? = some present)
    (stepped : system.step (.start engine trytes) = some turn) {error : ConfirmerError}
    (refused : .startRefused engine error ∈ turn.2) : turn.1 = system := by
  obtain ⟨other, unread, rfl⟩ | ⟨read, ⟨running, rfl⟩ | ⟨free, begun⟩⟩ := start_cases found stepped
  · rfl
  · rfl
  · exact absurd refused (begun error)

/-! ## All counts -/

/-- What holds of an engine and of its count. -/
structure Headcount (trace : List Moment) (system : System) (engine : Nat) (present : Engine) :
    Prop where
  /-- Whatever it is given to confirm, something comes of a start. -/
  starts : ∀ trytes, ∃ turn, system.step (.start engine trytes) = some turn
  /-- A start is refused for its bundle, whether the engine is at work or not, -/
  invalid : ∀ trytes turn cause, system.step (.start engine trytes) = some turn →
    (.startRefused engine (.invalidBundle cause) ∈ turn.2 ↔ tailOf trytes = .error cause)
  /-- and otherwise if the engine is at work. -/
  busy : ∀ trytes turn, system.step (.start engine trytes) = some turn →
    (.startRefused engine .alreadyRunning ∈ turn.2 ↔
      (∃ tail, tailOf trytes = .ok tail) ∧ present.running = true)
  /-- A start that is refused changes nothing. -/
  refused : ∀ trytes turn error, system.step (.start engine trytes) = some turn →
    .startRefused engine error ∈ turn.2 → turn.1 = system
  /-- It works on one task at most, -/
  alone : ∀ id other, system.WorksOn engine id → system.WorksOn engine other → id = other
  /-- and is at work if there is one. -/
  running : (∃ id, system.WorksOn engine id) → present.running = true
  /-- Otherwise it is not, unless it could not start a task. -/
  reason : present.running = true → (∃ id, system.WorksOn engine id) ∨ Overflowed trace engine
  /-- It counts no loop exactly if there is no task. -/
  idle : present.activeLoops = 0 ↔ ∀ id, ¬system.WorksOn engine id
  most : present.activeLoops ≤ 4
  /-- It counts the live loops of its task, -/
  loops : ∀ id task, system.WorksOn engine id → system.task? id = some task →
    present.activeLoops = task.liveLoops
  /-- of which there are four until one is seen to end. -/
  full : ∀ id, system.WorksOn engine id →
    (present.activeLoops = 4 ↔ ∀ party, .loopEnded party ∉ seen id trace)
  /-- Before the loops are told to end, one ends only if it breaks off an attempt, or finds no pause
  between two checks. -/
  early : ∀ id task party, system.WorksOn engine id → system.task? id = some task →
    task.stop = false → .loopEnded party ∈ seen id trace →
      (∃ kind, .brokeOff kind ∈ seen id trace) ∨ ∃ moment ∈ trace,
        task.setup.config.promotabilityInterval? moment.before.load = none

theorem Run.headcount_engine (run : Run start trace final) (fresh : start.IsSetUp)
    (uncounted : ∀ engine ∈ start.engines, engine.activeLoops = 0)
    (found : final.engines[engine]? = some present) : Headcount trace final engine present := by
  have new := fresh.toIsNew
  have employs := (run.employs fresh).2
  have tallied := run.tallied fresh uncounted engine present found
  have sound : ∀ id task, final.task? id = some task → task.Sound :=
    fun id task present => run.sound new present
  have runs : final.isRunning engine = present.running := isRunning_of_engine found
  have loops : ∀ id task, final.WorksOn engine id → final.task? id = some task →
      present.activeLoops = task.liveLoops :=
    fun id task works there => tallied.trans (employs.loopsOf sound works there)
  have idle : (∀ id, ¬final.WorksOn engine id) → present.activeLoops = 0 :=
    fun idle => tallied.trans (loopsOf_eq_zero sound idle)
  refine {
    starts := start_isSome found
    invalid := fun _ _ cause stepped => invalidBundle_iff found stepped cause
    busy := fun _ _ stepped => alreadyRunning_iff found stepped
    refused := fun _ _ _ stepped refused => same_of_refused found stepped refused
    alone := fun id other works also => Nat.le_antisymm (employs.last _ _ _ also works.own)
      (employs.last _ _ _ works also.own)
    running := fun ⟨id, works⟩ => runs.symm.trans (employs.running _ _ works)
    reason := fun running => employs.reason _ (runs.trans running)
    idle := ⟨?_, idle⟩
    most := ?_
    loops := loops
    full := ?_
    early := fun id task party works there => (run.lives new there party).2 }
  · intro none_left id works
    obtain ⟨task, there, unfinished⟩ := works.unfinished
    have past := ((sound id task there).liveLoops_eq_zero_iff).mp
      ((loops id task works there).symm.trans none_left)
    exact nomatch unfinished.symm.trans past
  · by_cases works : ∃ id, final.WorksOn engine id
    · obtain ⟨id, works⟩ := works
      obtain ⟨task, there, -⟩ := works.unfinished
      exact (loops id task works there).trans_le task.liveLoops_le
    · exact (idle (not_exists.mp works)).trans_le (Nat.zero_le 4)
  · intro id works
    obtain ⟨task, there, -⟩ := works.unfinished
    rw [loops id task works there, Task.liveLoops_eq_four_iff]
    exact forall_congr' fun party => (run.lives new there party).1

/-- In a settled system the load is the number of live checking loops, none of which has yet to
begin. -/
theorem Loaded.settled (loaded : system.Loaded) (settled : system.isSettled = true) :
    system.load = system.tasks.countP fun record => record.task.isLive .checker := by
  rw [loaded, ← sum_map_toNat]
  refine congrArg List.sum (List.map_congr_left fun record member => ?_)
  obtain ⟨id, there⟩ := List.mem_iff_getElem?.mp member
  have present : system.task? id = some record.task := task?_of_record there
  have rests := Task.checker_rests (task_isSettled present settled)
  have begun : record.task.checker ≠ .starting := by
    intro stands
    rw [stands] at rests
    exact rests
  simp [checks, Task.isChecking, Task.isLive, begun]

theorem Loaded.over (loaded : system.Loaded)
    (past : ∀ id task, system.task? id = some task → task.Sound ∧ task.isOver = true) :
    system.load = 0 := by
  rw [loaded]
  refine sum_map_eq_zero fun record member => ?_
  obtain ⟨id, there⟩ := List.mem_iff_getElem?.mp member
  obtain ⟨sound, finished⟩ := past id record.task (task?_of_record there)
  simp [checks, Task.isChecking, (sound.done_of_over finished).2.1]

/-- In every run from a system that has been set up, every engine works on one task at most and
counts its live loops, and a start that is refused changes nothing. When the system is settled the
load is the number of live checking loops, and it is zero when all tasks are over. -/
theorem Run.headcount (run : Run start trace final) (fresh : start.IsSetUp)
    (uncounted : ∀ engine ∈ start.engines, engine.activeLoops = 0) (unloaded : start.load = 0) :
    (∀ engine present, final.engines[engine]? = some present →
        Headcount trace final engine present) ∧
      (final.isSettled = true →
        final.load = final.tasks.countP fun record => record.task.isLive .checker) ∧
      ((∀ id task, final.task? id = some task → task.isOver = true) → final.load = 0) := by
  have loaded := run.loaded fresh.toIsNew unloaded
  exact ⟨fun engine present found => run.headcount_engine fresh uncounted found, loaded.settled,
    fun past => loaded.over fun id task present =>
      ⟨run.sound fresh.toIsNew present, past id task present⟩⟩

/-- All loops of the task have begun, and a node is asked about its tail. -/
def allBegun : List Event :=
  [.task 0 (.entered .checker), .task 0 (.granted .checker), .task 0 (.entered .promoter),
    .task 0 (.entered .reattacher), .task 0 (.entered .supervisor), .poller (.pollerEntered 1)]

/-- There are four loops then, and another start is refused and changes nothing. -/
theorem headcount_allBegun : ∃ trace final present, Run (idle quickTicks) trace final ∧
    final.engines[0]? = some present ∧ present.activeLoops = 4 ∧ final.load = 1 ∧
      ∃ turn, final.step (.start 0 blankBundle) = some turn ∧
        .startRefused 0 .alreadyRunning ∈ turn.2 ∧ turn.1 = final := by
  obtain ⟨trace, final, task, run, found, checked⟩ :
      ∃ trace final task, Run (idle quickTicks) (startMoment quickTicks :: trace) final ∧
        final.task? 0 = some task ∧ decide (
          (final.engine? 0 = some 0 ∧ task.isOver = false) ∧ final.isSettled = true ∧
          Task.ended (seen 0 (startMoment quickTicks :: trace)) = [] ∧
          (final.tasks.countP fun record => record.task.isLive .checker) = 1 ∧
          final.engines[0]?.isSome = true) = true :=
    @exists_engaged_run quickTicks (.ofSeconds 900) allBegun _ (by decide) (by decide)
      (by decide +kernel)
  obtain ⟨⟨own, unfinished⟩, settled, none_ended, one, there⟩ := of_decide_eq_true checked
  obtain ⟨present, there⟩ := Option.isSome_iff_exists.mp there
  have works : final.WorksOn 0 0 := ⟨own, task, found, unfinished⟩
  obtain ⟨engines, load, -⟩ := run.headcount (isSetUp_idle _) (by decide) rfl
  have count := engines 0 present there
  obtain ⟨turn, stepped⟩ := count.starts blankBundle
  have refused :=
    (count.busy _ turn stepped).mpr ⟨⟨_, tailOf_blankBundle⟩, count.running ⟨0, works⟩⟩
  refine ⟨_, final, present, run, there, (count.full 0 works).mpr fun party ended => ?_,
    (load settled).trans one, turn, stepped, refused, count.refused _ turn _ stepped refused⟩
  have member := Task.mem_ended.mpr ended
  rw [none_ended] at member
  cases member

/-- Settings under which the pause between two checks, doubled, is no duration. They are valid. -/
def endlessPause : ConfirmerConfig :=
  { promotabilityCheckSeconds := 18446744073709551615, slowDownThreshold := 1 }

/-- After the first check the checking loop has ended, whatever has come of the check. Nobody has
told the loops to end: the task is neither cancelled nor confirmed, and its supervisor waits for the
confirmation. -/
theorem loop_lost_before_its_time : (∃ address, endlessPause.validate = .ok address) ∧
    ∃ trace final task present, Run (idle endlessPause) trace final ∧ final.isSettled = true ∧
      final.engines[0]? = some present ∧ present.running = true ∧ present.activeLoops = 3 ∧
      final.task? 0 = some task ∧ task.phase = .running ∧ task.stop = false ∧
      task.cancel = false ∧ task.supervisor = .watching 1 none ∧ task.isLive .checker = false := by
  obtain ⟨trace, final, task, run, found, checked⟩ :
      ∃ trace final task, Run (idle endlessPause) (startMoment endlessPause :: trace) final ∧
        final.task? 0 = some task ∧ decide (final.isSettled = true ∧
          (final.engines[0]?).any (fun present => present.running = true ∧
            present.activeLoops = 3) = true ∧ task.phase = .running ∧ task.stop = false ∧
          task.cancel = false ∧ task.supervisor = .watching 1 none ∧
          task.isLive .checker = false) = true :=
    @exists_engaged_run endlessPause (.ofSeconds 900)
      (allBegun ++ [.legEnded 0 0 (.failed (.http "down")), .callReturned 0]) _ (by decide)
      (by decide) (by decide +kernel)
  obtain ⟨settled, engine, course⟩ := of_decide_eq_true checked
  obtain ⟨present, there, counts⟩ := (Option.any_eq_true ..).mp engine
  obtain ⟨running, three⟩ := of_decide_eq_true counts
  exact ⟨⟨.null, by decide⟩, _, final, task, present, run, settled, there, running, three, found,
    course⟩

end System

end Inclusion
