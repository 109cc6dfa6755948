import Inclusion.Proofs.System.Dialogue
import Inclusion.Proofs.System.Frame
import Inclusion.Proofs.Task.Reports

/-!
# What engines work on

An engine is at work from the start of a task until the task is over, and starts none meanwhile. So
of its tasks only the one started last may be at work. There is one exception: an engine that could
not start a task, because a time computed from its settings does not exist, is left at work on
nothing.

The systems considered here have been set up with engines that are not at work yet, and all clients
of an engine are there.
-/

namespace Inclusion

/-- A signal is nothing to a task that is over. -/
theorem Task.Hears.isOver {task heard : Task} (hears : task.Hears heard) :
    heard.isOver = task.isOver := by
  cases hears with
  | nothing => rfl
  | signal stands => simp [Task.isOver, stands]

/-- A task that is started is not over. -/
theorem Task.IsNew.isOver {task : Task} (new : task.IsNew) : task.isOver = false := by
  obtain ⟨setup, tail, trytes, now, forced, rfl⟩ := new
  rfl

/-- As many nodes are registered as a set has. -/
theorem Client.handles_registerAll (label : String) (health : Health) (endpoints : List Endpoint) :
    (registerAll label health endpoints).2.length = endpoints.length := by
  induction endpoints generalizing health with
  | nil => rfl
  | cons first rest inductionHypothesis =>
    exact congrArg (· + 1) (inductionHypothesis (health.register label).1)

/-- The client of a set has a handle for every node. -/
theorem Client.handles_ofSet (health : Health) (set : EndpointSet) :
    (ofSet health set).2.handles.length = (ofSet health set).2.set.endpoints.length :=
  handles_registerAll set.label health set.endpoints

/-- Effects of a task end the work of its engine if the end of the task is among them. -/
theorem Task.running_onEngine (effects : List Task.Effect) (engine : Engine) :
    (Task.onEngine effects engine).running = true ↔
      engine.running = true ∧ .finished ∉ effects := by
  induction effects generalizing engine with
  | nil => simp [Task.onEngine]
  | cons first rest inductionHypothesis =>
    refine (inductionHypothesis (first.onEngine engine)).trans ?_
    cases first <;> simp [Task.Effect.onEngine]

namespace System

/-- The engine of a task. -/
def engine? (system : System) (id : Nat) : Option Nat :=
  (system.tasks[id]?).map TaskRecord.engine

/-- Whether an engine is at work. -/
def isRunning (system : System) (engine : Nat) : Bool :=
  (system.engines[engine]?).any Engine.running

theorem engine?_of_record {system : System} {id : Nat} {record : TaskRecord}
    (found : system.tasks[id]? = some record) : system.engine? id = some record.engine :=
  congrArg (Option.map TaskRecord.engine) found

theorem isRunning_of_engine {system : System} {engine : Nat} {present : Engine}
    (found : system.engines[engine]? = some present) :
    system.isRunning engine = present.running :=
  congrArg (Option.any Engine.running) found

/-- A task of an engine that is not over. -/
structure WorksOn (system : System) (engine id : Nat) : Prop where
  own : system.engine? id = some engine
  unfinished : ∃ task, system.task? id = some task ∧ task.isOver = false

/-- A system that has just been set up: nothing has been started and no engine is at work. The
clients of every engine are there, and have a handle for each of their nodes, as
`Client.handles_ofSet` has it. -/
structure IsSetUp (system : System) : Prop extends IsNew system where
  roles : ∀ engine ∈ system.engines, ∀ role, engine.client role < system.clients.length
  handles : ∀ client ∈ system.clients, client.handles.length = client.set.endpoints.length
  idle : ∀ engine ∈ system.engines, engine.running = false

/-- All clients of all engines are there, and the engine of every task. -/
structure IsStaffed (system : System) : Prop where
  handles : ∀ client ∈ system.clients, client.handles.length = client.set.endpoints.length
  manned : ∀ engine < system.engines.length, system.IsManned engine
  crew : ∀ id engine, system.engine? id = some engine → engine < system.engines.length

/-- An engine could not compute a time of its settings. -/
def Overflowed (trace : List Moment) (engine : Nat) : Prop :=
  ∃ moment ∈ trace, .startOverflowed engine ∈ moment.effects

/-- An engine is at work exactly if the task that it has started last is not over. -/
structure Employs (trace : List Moment) (system : System) : Prop where
  running : ∀ engine id, system.WorksOn engine id → system.isRunning engine = true
  last : ∀ engine id other, system.WorksOn engine id → system.engine? other = some engine →
    other ≤ id
  reason : ∀ engine, system.isRunning engine = true →
    (∃ id, system.WorksOn engine id) ∨ Overflowed trace engine

variable {start system next final : System} {trace : List Moment} {id engine : Nat} {event : Event}
  {turn : Turn}

/-! ## Clients and engines -/

theorem engine?_of_crew
    (crew : next.tasks.map TaskRecord.engine = system.tasks.map TaskRecord.engine) (id : Nat) :
    next.engine? id = system.engine? id := by
  rw [engine?, engine?, ← List.getElem?_map, ← List.getElem?_map, crew]

/-- A task that is started takes the next number. -/
theorem engine?_concat {record : TaskRecord} (tasks : next.tasks = system.tasks ++ [record])
    (id : Nat) :
    next.engine? id =
      if id = system.tasks.length then some record.engine else system.engine? id := by
  rw [engine?, tasks]
  split
  · next own => simp [own]
  · next other =>
    rw [engine?]
    obtain within | beyond := Nat.lt_or_gt_of_ne other
    · rw [List.getElem?_append_left within]
    · rw [List.getElem?_eq_none (by simp; omega), List.getElem?_eq_none (by omega)]

theorem isStaffed_of_isSetUp (fresh : start.IsSetUp) : start.IsStaffed where
  handles := fresh.handles
  manned := fun engine there => ⟨start.engines[engine], List.getElem?_eq_getElem there,
    fresh.roles _ (List.getElem_mem there)⟩
  crew := fun id engine own => by simp [engine?, fresh.tasks] at own

/-- What engines do changes neither them nor their clients otherwise. -/
theorem IsStaffed.of_modify (staffed : system.IsStaffed) {changed : Nat} {change : Engine → Engine}
    (clients : next.clients = system.clients)
    (engines : next.engines = system.engines.modify changed change)
    (same : ∀ present, (change present).client = present.client)
    (crew : ∀ id engine, next.engine? id = some engine → engine < system.engines.length) :
    next.IsStaffed where
  handles := clients ▸ staffed.handles
  manned := by
    intro engine there
    rw [engines, List.length_modify] at there
    obtain ⟨present, found, roles⟩ := staffed.manned engine there
    rw [IsManned, engines, clients, List.getElem?_modify, found]
    split
    · exact ⟨change present, rfl, by rwa [same]⟩
    · exact ⟨present, rfl, roles⟩
  crew := fun id engine own => by
    rw [engines, List.length_modify]
    exact crew id engine own

theorem IsStaffed.step (staffed : system.IsStaffed) (progress : Progress system event turn) :
    turn.1.IsStaffed := by
  have unchanged : ∀ {after : System}, after.clients = system.clients →
      after.engines = system.engines →
        after.tasks.map TaskRecord.engine = system.tasks.map TaskRecord.engine →
          after.IsStaffed := by
    intro after clients engines crew
    refine staffed.of_modify clients (engines.trans (List.modify_id 0 _).symm) (fun _ => rfl) ?_
    intro id engine own
    exact staffed.crew id engine ((engine?_of_crew crew id).symm.trans own)
  cases progress with
  | waited settled forward due after => exact after ▸ unchanged rfl rfl rfl
  | kept frames => exact unchanged frames.clients frames.engines frames.crew
  | @worked id taskEvent record next effects carries present move frames =>
    refine staffed.of_modify frames.clients frames.engines (Task.client_onEngine effects) ?_
    intro other engine own
    have crew := frames.crew.trans (crew_setTask system id next)
    exact staffed.crew other engine ((engine?_of_crew crew other).symm.trans own)
  | @started engine present task found free new now clients calls engines tasks =>
    refine staffed.of_modify clients engines (fun _ => rfl) ?_
    intro id other own
    rw [engine?_concat tasks] at own
    split at own
    · obtain rfl := Option.some.inj own
      exact (List.getElem?_eq_some_iff.mp found).1
    · exact staffed.crew id other own
  | overflowed shown after =>
    rw [after]
    exact staffed.of_modify rfl rfl (fun _ => rfl) staffed.crew

/-! ## Engines and tasks -/

theorem Hears.worksOn (hears : system.Hears next)
    (crew : next.tasks.map TaskRecord.engine = system.tasks.map TaskRecord.engine) :
    next.WorksOn engine id ↔ system.WorksOn engine id := by
  constructor
  · rintro ⟨own, heard, there, unfinished⟩
    refine ⟨(engine?_of_crew crew id).symm.trans own, ?_⟩
    cases present : system.task? id with
    | none => exact nomatch (hears.absent present).symm.trans there
    | some task =>
      obtain ⟨after, hears, found⟩ := hears.told id task present
      obtain rfl := Option.some.inj (found.symm.trans there)
      exact ⟨task, rfl, hears.isOver.symm.trans unfinished⟩
  · rintro ⟨own, task, present, unfinished⟩
    obtain ⟨heard, hears, there⟩ := hears.told id task present
    exact ⟨(engine?_of_crew crew id).trans own, heard, there, hears.isOver.trans unfinished⟩

/-- A task of an engine is over or not, whatever becomes of other tasks. -/
theorem worksOn_setTask {record : TaskRecord} {task : Task}
    (present : system.tasks[id]? = some record) {other : Nat} :
    (system.setTask id task).WorksOn engine other ↔
      if other = id then engine = record.engine ∧ task.isOver = false
      else system.WorksOn engine other := by
  have crew := engine?_of_crew (crew_setTask system id task) other
  have found : system.task? id = some record.task := task?_of_record present
  split
  · next same =>
    subst same
    have own : system.engine? other = some record.engine := engine?_of_record present
    constructor
    · rintro ⟨belongs, after, there, unfinished⟩
      rw [crew, own] at belongs
      rw [task?_setTask, if_pos rfl, found] at there
      obtain rfl := Option.some.inj there
      exact ⟨(Option.some.inj belongs).symm, unfinished⟩
    · rintro ⟨rfl, unfinished⟩
      exact ⟨crew.trans own, task, by simp [task?_setTask, found], unfinished⟩
  · next different =>
    have elsewhere : (system.setTask id task).task? other = system.task? other := by
      rw [task?_setTask, if_neg (Ne.symm different)]
    constructor
    · rintro ⟨belongs, unfinished⟩
      exact ⟨crew.symm.trans belongs, elsewhere ▸ unfinished⟩
    · rintro ⟨belongs, unfinished⟩
      exact ⟨crew.trans belongs, elsewhere ▸ unfinished⟩

/-- When a task takes a step an engine works on what it has worked on, unless the task has come to
its end. -/
theorem worksOn_of_move {record : TaskRecord} {around : Task.Surroundings}
    {taskEvent : Task.Event} {task : Task} {effects : List Task.Effect}
    (present : system.tasks[id]? = some record)
    (move : Task.Move around record.task taskEvent (task, effects))
    (hears : (system.setTask id task).Hears next)
    (crew : next.tasks.map TaskRecord.engine = system.tasks.map TaskRecord.engine)
    (engine other : Nat) :
    next.WorksOn engine other ↔
      system.WorksOn engine other ∧ (other = id → .finished ∉ effects) := by
  have own : system.engine? id = some record.engine := engine?_of_record present
  have found : system.task? id = some record.task := task?_of_record present
  rw [hears.worksOn (crew.trans (crew_setTask system id task).symm), worksOn_setTask present]
  split
  · next same =>
    subst same
    have ends := move.finished_iff
    constructor
    · rintro ⟨rfl, unfinished⟩
      have before : record.task.isOver = false :=
        eq_false_of_ne_true fun past => by simp [move.isOver past] at unfinished
      refine ⟨⟨own, _, found, before⟩, fun _ finished => ?_⟩
      exact nomatch unfinished.symm.trans (ends.mp finished).2
    · rintro ⟨⟨belongs, before, there, unfinished⟩, unended⟩
      obtain rfl := Option.some.inj (found.symm.trans there)
      refine ⟨(Option.some.inj (own.symm.trans belongs)).symm, eq_false_of_ne_true fun past => ?_⟩
      exact unended rfl (ends.mpr ⟨unfinished, past⟩)
  · next different => exact ⟨fun works => ⟨works, fun same => absurd same different⟩, And.left⟩

/-- A task that is started is one that its engine works on. -/
theorem worksOn_concat {task : Task} (tasks : next.tasks = system.tasks ++ [⟨engine, task⟩])
    (new : task.IsNew) (other id : Nat) :
    next.WorksOn other id ↔
      if id = system.tasks.length then other = engine else system.WorksOn other id := by
  have own := engine?_concat tasks id
  have there := task?_concat tasks id
  split
  · next last =>
    rw [if_pos last] at own there
    constructor
    · intro works
      exact (Option.some.inj (own.symm.trans works.own)).symm
    · rintro rfl
      exact ⟨own, task, there, new.isOver⟩
  · next earlier =>
    rw [if_neg earlier] at own there
    constructor
    · rintro ⟨belongs, unfinished⟩
      exact ⟨own.symm.trans belongs, there ▸ unfinished⟩
    · rintro ⟨belongs, unfinished⟩
      exact ⟨own.trans belongs, there ▸ unfinished⟩

theorem isRunning_of_modify {changed : Nat} {change : Engine → Engine}
    (engines : next.engines = system.engines.modify changed change) (engine : Nat) :
    next.isRunning engine = if changed = engine then
      (system.engines[engine]?).any fun present => (change present).running
      else system.isRunning engine := by
  rw [isRunning, engines, List.getElem?_modify]
  split <;> cases found : system.engines[engine]? <;> simp [isRunning, found]

/-- When a task takes a step its engine stays at work, unless the task has come to its end. -/
theorem isRunning_onEngine {changed : Nat} {effects : List Task.Effect}
    (engines : next.engines = system.engines.modify changed (Task.onEngine effects))
    (engine : Nat) :
    next.isRunning engine = true ↔
      system.isRunning engine = true ∧ (engine = changed → .finished ∉ effects) := by
  rw [isRunning_of_modify engines]
  split
  · next same =>
    subst same
    cases there : system.engines[changed]? with
    | none => simp [isRunning, there]
    | some present => simp [isRunning, there, Task.running_onEngine]
  · next different =>
    exact ⟨fun running => ⟨running, fun same => absurd same.symm different⟩, And.left⟩

theorem Overflowed.mono {engine : Nat} (overflowed : Overflowed trace engine) (more : List Moment) :
    Overflowed (trace ++ more) engine := by
  obtain ⟨moment, member, shown⟩ := overflowed
  exact ⟨moment, List.mem_append_left _ member, shown⟩

theorem employs_of_isSetUp (fresh : start.IsSetUp) : Employs [] start where
  running := fun engine id works => by
    have own := works.own
    simp [engine?, fresh.tasks] at own
  last := fun engine id other works own => by simp [engine?, fresh.tasks] at own
  reason := fun engine running => by
    obtain ⟨present, found, running⟩ := (Option.any_eq_true ..).mp running
    have idle := fresh.idle present (List.mem_of_getElem? found)
    exact nomatch idle.symm.trans running

/-- Engines and tasks that are what they were. -/
theorem Employs.of_same (employs : Employs trace system) (moment : Moment)
    (engines : next.engines = system.engines) (hears : system.Hears next)
    (crew : next.tasks.map TaskRecord.engine = system.tasks.map TaskRecord.engine) :
    Employs (trace ++ [moment]) next where
  running := fun engine id works => by
    rw [isRunning, engines]
    exact employs.running engine id ((hears.worksOn crew).mp works)
  last := fun engine id other works own =>
    employs.last engine id other ((hears.worksOn crew).mp works)
      ((engine?_of_crew crew other).symm.trans own)
  reason := fun engine running => by
    rw [isRunning, engines] at running
    refine (employs.reason engine running).imp ?_ fun overflowed => overflowed.mono _
    rintro ⟨id, works⟩
    exact ⟨id, (hears.worksOn crew).mpr works⟩

/-- When a task takes a step, its engine ends its work if the task is over. -/
theorem Employs.worked (employs : Employs trace system) (moment : Moment) {record : TaskRecord}
    {around : Task.Surroundings} {taskEvent : Task.Event} {task : Task}
    {effects : List Task.Effect} (present : system.tasks[id]? = some record)
    (move : Task.Move around record.task taskEvent (task, effects))
    (engines : next.engines = system.engines.modify record.engine (Task.onEngine effects))
    (hears : (system.setTask id task).Hears next)
    (crew : next.tasks.map TaskRecord.engine = system.tasks.map TaskRecord.engine) :
    Employs (trace ++ [moment]) next := by
  have own : system.engine? id = some record.engine := engine?_of_record present
  have found : system.task? id = some record.task := task?_of_record present
  have works : ∀ engine other, next.WorksOn engine other ↔ _ :=
    worksOn_of_move present move hears crew
  have running_onEngine : ∀ engine, next.isRunning engine = true ↔ _ := isRunning_onEngine engines
  refine ⟨?_, ?_, ?_⟩
  · intro engine other work
    obtain ⟨work, unended⟩ := (works engine other).mp work
    refine (running_onEngine engine).mpr ⟨employs.running engine other work, ?_⟩
    -- A task that has come to its end was the only one of its engine.
    rintro rfl finished
    have ending : system.WorksOn record.engine id :=
      ⟨own, _, found, (move.finished_iff.mp finished).1⟩
    have same : other = id := Nat.le_antisymm (employs.last _ id other ending work.own)
      (employs.last _ other id work own)
    exact unended same finished
  · intro engine id other work belongs
    exact employs.last engine id other ((works engine id).mp work).1
      ((engine?_of_crew crew other).symm.trans belongs)
  · intro engine running
    obtain ⟨running, unended⟩ := (running_onEngine engine).mp running
    refine (employs.reason engine running).imp ?_ fun overflowed => overflowed.mono _
    rintro ⟨other, work⟩
    refine ⟨other, (works engine other).mpr ⟨work, ?_⟩⟩
    rintro rfl
    exact unended (Option.some.inj (work.own.symm.trans own))

/-- An engine that starts a task was at work on none, and works on the new one. -/
theorem Employs.started (employs : Employs trace system) (moment : Moment) {present : Engine}
    {task : Task} {change : Engine → Engine} (found : system.engines[engine]? = some present)
    (free : present.running = false) (new : task.IsNew)
    (engines : next.engines = system.engines.modify engine change)
    (begun : ∀ present, (change present).running = true)
    (tasks : next.tasks = system.tasks ++ [⟨engine, task⟩]) :
    Employs (trace ++ [moment]) next := by
  have idle : system.isRunning engine = false := (isRunning_of_engine found).trans free
  have works : ∀ other id, next.WorksOn other id ↔ _ := worksOn_concat tasks new
  have runs : ∀ other, next.isRunning other =
      if engine = other then true else system.isRunning other := by
    intro other
    rw [isRunning_of_modify engines]
    split
    · next same => simp [← same, found, begun]
    · rfl
  have others : ∀ other id, system.WorksOn other id → engine ≠ other := by
    rintro _ id work rfl
    exact nomatch idle.symm.trans (employs.running _ id work)
  refine ⟨?_, ?_, ?_⟩
  · intro other id work
    rw [works] at work
    rw [runs]
    split
    · rfl
    · next different =>
      split at work
      · exact absurd work.symm different
      · exact employs.running other id work
  · intro other id earlier work belongs
    rw [engine?_concat tasks] at belongs
    rw [works] at work
    split at work
    · next last =>
      subst last
      split at belongs
      · next same => exact Nat.le_of_eq same
      · obtain ⟨there, -⟩ := List.getElem?_eq_some_iff.mp
          (Option.map_eq_some_iff.mp belongs).choose_spec.1
        exact Nat.le_of_lt there
    · split at belongs
      · exact absurd (Option.some.inj belongs) (others other id work)
      · exact employs.last other id earlier work belongs
  · intro other running
    rw [runs] at running
    split at running
    · next same => exact .inl ⟨system.tasks.length, (works _ _).mpr (by simp [same])⟩
    · refine (employs.reason other running).imp ?_ fun overflowed => overflowed.mono _
      rintro ⟨id, work⟩
      have earlier : id ≠ system.tasks.length := by
        obtain ⟨task, there, -⟩ := work.unfinished
        exact ne_of_present there
      exact ⟨id, (works other id).mpr (by rwa [if_neg earlier])⟩

/-- An engine that could not start a task is left at work. -/
theorem Employs.overflowed (employs : Employs trace system) {moment : Moment}
    {change : Engine → Engine} (shown : moment.effects = [.startOverflowed engine])
    (engines : next.engines = system.engines.modify engine change)
    (begun : ∀ present, (change present).running = true) (hears : system.Hears next)
    (crew : next.tasks.map TaskRecord.engine = system.tasks.map TaskRecord.engine) :
    Employs (trace ++ [moment]) next := by
  have runs := isRunning_of_modify engines
  have works : ∀ other id, next.WorksOn other id ↔ system.WorksOn other id :=
    fun _ _ => hears.worksOn crew
  refine ⟨?_, ?_, ?_⟩
  · intro other id work
    have running := employs.running other id ((works other id).mp work)
    rw [runs]
    split
    · obtain ⟨present, found, -⟩ := (Option.any_eq_true ..).mp running
      simp [found, begun]
    · exact running
  · intro other id earlier work belongs
    exact employs.last other id earlier ((works other id).mp work)
      ((engine?_of_crew crew earlier).symm.trans belongs)
  · intro other running
    rw [runs] at running
    split at running
    · next same =>
      subst same
      exact .inr ⟨moment, List.mem_append_right _ (List.mem_singleton_self _), by simp [shown]⟩
    · refine (employs.reason other running).imp ?_ fun overflowed => overflowed.mono _
      rintro ⟨id, work⟩
      exact ⟨id, (works other id).mpr work⟩

theorem Employs.step (employs : Employs trace system) (progress : Progress system event turn) :
    Employs (trace ++ [⟨system, event, turn.2⟩]) turn.1 := by
  cases progress with
  | waited settled forward due after =>
    exact after ▸ employs.of_same _ rfl (.of_eq forward rfl) rfl
  | kept frames => exact employs.of_same _ frames.engines frames.hears frames.crew
  | @worked id taskEvent record next effects carries present move frames =>
    exact employs.worked _ present move frames.engines frames.hears
      (frames.crew.trans (crew_setTask system id next))
  | started found free new now clients calls engines tasks =>
    exact employs.started _ found free new engines (fun _ => rfl) tasks
  | overflowed shown after =>
    rw [after]
    exact employs.overflowed shown rfl (fun _ => rfl) (.of_eq (Nat.le_refl _) rfl) rfl

/-! ## Runs -/

/-- An engine that is at work although a task of it is over works on one that it has started later,
or could not start one. -/
theorem Employs.later (employs : Employs trace system) {task : Task}
    (own : system.engine? id = some engine) (present : system.task? id = some task)
    (past : task.isOver = true) (running : system.isRunning engine = true) :
    (∃ later > id, system.WorksOn engine later) ∨ Overflowed trace engine := by
  refine (employs.reason engine running).imp_left ?_
  rintro ⟨later, works⟩
  have other : id ≠ later := by
    rintro rfl
    obtain ⟨-, heard, there, unfinished⟩ := works
    obtain rfl := Option.some.inj (present.symm.trans there)
    exact nomatch past.symm.trans unfinished
  exact ⟨later, Nat.lt_of_le_of_ne (employs.last engine later id works own) other, works⟩

/-- In every run from a system that has been set up, engines work on the tasks that they have
started last, until these are over. -/
theorem Run.employs (run : Run start trace final) (fresh : start.IsSetUp) :
    final.IsStaffed ∧ Employs trace final := by
  induction run with
  | refl => exact ⟨isStaffed_of_isSetUp fresh, employs_of_isSetUp fresh⟩
  | step prior stepped inductionHypothesis =>
    have progress := progress (prior.converses fresh.toIsNew).numbered stepped
    exact ⟨inductionHypothesis.1.step progress, inductionHypothesis.2.step progress⟩

end System

end Inclusion
