import Inclusion.Proofs.System.Calls
import Inclusion.Proofs.System.Move
import Inclusion.Proofs.Task.Run

/-!
# What a step of a system is to its tasks

Most of what happens in a system concerns no task directly: a node answers, a poller asks, somebody
registers. The most that a task notices of it is a signal of the monitor, and no loop of a task
makes a call or loses one. Such a turn is an `Aside`. Every other step either starts a task or
carries a single event to a single task, which makes a step of its own; what that step asks for is
then carried out, which is an aside but for the calls of the task itself.
-/

namespace Inclusion

/-- A task that has done nothing yet. -/
def Task.IsNew (task : Task) : Prop :=
  ∃ setup tail trytes now forced, task = Task.start setup tail trytes now forced

/-- A task that is started with given trytes, by their tail. -/
def Task.StartsFrom (task : Task) (trytes : List String) : Prop :=
  ∃ setup tail now forced, tailOf trytes = .ok tail ∧ tail.bundle = setup.bundle ∧
    task = Task.start setup tail trytes now forced

theorem Task.StartsFrom.isNew {task : Task} {trytes : List String}
    (origin : task.StartsFrom trytes) : task.IsNew := by
  obtain ⟨setup, tail, now, forced, -, -, started⟩ := origin
  exact ⟨setup, tail, trytes, now, forced, started⟩

/-- A task that was told nothing, or of a signal of the monitor. -/
inductive Task.Hears (task : Task) : Task → Prop where
  | nothing : Hears task task
  | signal {ticket signal} (stands : task.supervisor = .watching ticket none) :
      Hears task { task with supervisor := .watching ticket (some signal) }

/-- A supervisor notices only one signal at a time. -/
theorem Task.Hears.trans {first second third : Task} (before : first.Hears second)
    (after : second.Hears third) : first.Hears third := by
  cases before with
  | nothing => exact after
  | signal stands =>
    cases after with
    | nothing => exact .signal stands
    | signal again => cases again

namespace System

/-- What is seen of the steps of a task. -/
def taskEffects (id : Nat) (effects : List Effect) : List Task.Effect :=
  effects.filterMap fun
    | .task other effect => if other = id then some effect else none
    | _ => none

@[simp] theorem taskEffects_append (id : Nat) (first second : List Effect) :
    taskEffects id (first ++ second) = taskEffects id first ++ taskEffects id second :=
  List.filterMap_append

/-- The tasks of a system are those of another, and have been told of signals at most. -/
structure Hears (system next : System) : Prop where
  now : system.now ≤ next.now
  length : next.tasks.length = system.tasks.length
  told : ∀ id task, system.task? id = some task →
    ∃ heard, task.Hears heard ∧ next.task? id = some heard

/-- A turn in which no task takes a step of its own. -/
structure Aside (system : System) (turn : Turn) : Prop where
  hears : system.Hears turn.1
  spares : system.Spares turn.1
  silent : ∀ id, taskEffects id turn.2 = []

variable {system : System}

theorem task?_congr {next : System} (tasks : next.tasks = system.tasks) (id : Nat) :
    next.task? id = system.task? id :=
  congrArg (fun records : List TaskRecord => (records[id]?).map TaskRecord.task) tasks

theorem task?_of_record {id : Nat} {record : TaskRecord}
    (found : system.tasks[id]? = some record) : system.task? id = some record.task :=
  congrArg (Option.map TaskRecord.task) found

theorem Hears.of_eq {next : System} (now : system.now ≤ next.now)
    (tasks : next.tasks = system.tasks) : system.Hears next where
  now := now
  length := by rw [tasks]
  told := by
    intro id task present
    exact ⟨task, .nothing, (task?_congr tasks id).trans present⟩

theorem Hears.refl (system : System) : system.Hears system :=
  .of_eq (Nat.le_refl _) rfl

theorem Hears.trans {first second third : System} (before : first.Hears second)
    (after : second.Hears third) : first.Hears third where
  now := Nat.le_trans before.now after.now
  length := after.length.trans before.length
  told := by
    intro id task present
    obtain ⟨heard, hears, present⟩ := before.told id task present
    obtain ⟨last, again, present⟩ := after.told id heard present
    exact ⟨last, hears.trans again, present⟩

/-- A task is there exactly if its number has been given. -/
theorem task?_isSome {id : Nat} : (system.task? id).isSome = true ↔ id < system.tasks.length := by
  simp [task?]

/-- No task is started by what tasks hear. -/
theorem Hears.absent {next : System} (hears : system.Hears next) {id : Nat}
    (absent : system.task? id = none) : next.task? id = none := by
  simpa [task?, hears.length] using absent

/-- A task that is started takes the next number. -/
theorem task?_concat {next : System} {record : TaskRecord}
    (tasks : next.tasks = system.tasks ++ [record]) (id : Nat) :
    next.task? id = if id = system.tasks.length then some record.task else system.task? id := by
  rw [task?, tasks]
  split
  · next own => simp [own]
  · next other =>
    rw [task?]
    obtain within | beyond := Nat.lt_or_gt_of_ne other
    · rw [List.getElem?_append_left within]
    · rw [List.getElem?_eq_none (by simp; omega), List.getElem?_eq_none (by omega)]

/-- The number of a task that is there is not the next one. -/
theorem ne_of_present {id : Nat} {task : Task} (present : system.task? id = some task) :
    id ≠ system.tasks.length :=
  Nat.ne_of_lt (task?_isSome.mp (Option.isSome_of_eq_some present))

theorem task?_setTask (system : System) (id other : Nat) (task : Task) :
    (system.setTask id task).task? other =
      if id = other then (system.task? other).map fun _ => task else system.task? other := by
  simp only [task?, setTask, List.getElem?_modify]
  split <;> cases system.tasks[other]? <;> rfl

/-- In a settled system every task is settled. -/
theorem task_isSettled {id : Nat} {task : Task} (present : system.task? id = some task)
    (settled : system.isSettled = true) : task.isSettled system.surroundings = true := by
  obtain ⟨record, found, rfl⟩ := Option.map_eq_some_iff.mp present
  have listed : (record, id) ∈ system.tasks.zipIdx := List.mem_zipIdx_iff_getElem?.mpr found
  have nothing : system.nextTaskEvent? = none := by
    simp only [isSettled, nextEvent?, Bool.and_eq_true, Option.isNone_iff_eq_none,
      Option.or_eq_none_iff] at settled
    exact settled.1.2.1
  have quiet := List.findSome?_eq_none_iff.mp nothing (record, id) listed
  rw [Task.isSettled, Option.map_eq_none_iff.mp quiet]
  rfl

/-! ## Asides -/

/-- Nothing is seen of any task in effects of other kinds. -/
theorem taskEffects_eq_nil {effects : List Effect}
    (others : ∀ id effect, .task id effect ∉ effects) (id : Nat) : taskEffects id effects = [] := by
  refine List.filterMap_eq_nil_iff.mpr fun effect member => ?_
  cases effect with
  | task other effect => exact absurd member (others other effect)
  | _ => rfl

theorem Aside.of_eq {turn : Turn} (now : system.now ≤ turn.1.now)
    (tasks : turn.1.tasks = system.tasks) (spares : system.Spares turn.1)
    (others : ∀ id effect, .task id effect ∉ turn.2) : system.Aside turn :=
  ⟨.of_eq now tasks, spares, taskEffects_eq_nil others⟩

/-- Nothing happens, and no task is seen in what is seen. -/
theorem Aside.refl (system : System) : system.Aside (system, []) :=
  ⟨.refl system, .refl system, fun _ => rfl⟩

/-- One aside after another is an aside. -/
theorem Aside.carryOut {α : Type} {act : System → α → Turn}
    (aside : ∀ (system : System) item, system.Aside (act system item)) (system : System)
    (items : List α) : system.Aside (carryOut act system items) := by
  induction items generalizing system with
  | nil => exact .refl system
  | cons first rest inductionHypothesis =>
    have now := aside system first
    have later := inductionHypothesis (act system first).1
    refine ⟨now.hears.trans later.hears, now.spares.trans later.spares, fun id => ?_⟩
    rw [System.carryOut, taskEffects_append, now.silent, later.silent]
    rfl

/-- Of a call that begins no task hears anything. -/
theorem hears_beginCall (system : System) (owner : Owner) (client : Nat) (request : Request) :
    system.Hears (system.beginCall owner client request).1 ∧
      ∀ id, taskEffects id (system.beginCall owner client request).2 = [] := by
  unfold beginCall
  split
  · exact ⟨.refl system, fun _ => rfl⟩
  · exact ⟨.of_eq (Nat.le_refl _) rfl, taskEffects_eq_nil (by simp)⟩

theorem aside_beginCall (system : System) {owner : Owner} (client : Nat) (request : Request)
    (other : ∀ id party, owner ≠ .loop id party) :
    system.Aside (system.beginCall owner client request) := by
  obtain ⟨hears, silent⟩ := system.hears_beginCall owner client request
  exact ⟨hears, system.spares_beginCall client request other, silent⟩

/-- Telling a single task is all that happens. -/
theorem hears_setTask {id : Nat} {task heard : Task} (present : system.task? id = some task)
    (hears : task.Hears heard) : system.Hears (system.setTask id heard) where
  now := Nat.le_refl _
  length := List.length_modify ..
  told := by
    intro other before found
    rw [task?_setTask]
    by_cases same : id = other
    · subst same
      obtain rfl := Option.some.inj (present.symm.trans found)
      exact ⟨heard, hears, by simp [found]⟩
    · exact ⟨before, .nothing, by rw [if_neg same, found]⟩

/-- A signal reaches the supervisor that it is for, if it still waits for one. -/
theorem hears_signal (system : System) (id ticket : Nat) (signal : Signal) :
    system.Hears (system.signal id ticket signal) := by
  unfold System.signal
  split
  · exact .refl system
  · next task present =>
    split
    · next next effects stepped =>
      cases Task.step_eq_some_iff.mp stepped with
      | signalled stands => exact hears_setTask present (.signal stands)
    · exact .refl system

theorem aside_signal (system : System) (id ticket : Nat) (signal : Signal) :
    system.Aside (system.signal id ticket signal, []) := by
  refine ⟨hears_signal system id ticket signal, ?_, fun _ => rfl⟩
  unfold System.signal
  split
  · exact .refl system
  · split
    · exact .of_eq rfl rfl
    · exact .refl system

theorem aside_tellRemoved (bundle : Hash) (system : System) (registration : Registration Watcher) :
    system.Aside (tellRemoved bundle system registration) := by
  unfold tellRemoved
  split
  · exact aside_signal system _ _ _
  · exact ⟨.refl system, .refl system, fun _ => rfl⟩
  · exact ⟨.refl system, .refl system, fun _ => rfl⟩

theorem aside_tellConfirmed (system : System) (registration : Registration Watcher) :
    system.Aside (system.tellConfirmed registration) := by
  unfold tellConfirmed
  split
  · exact aside_signal system _ _ _
  · exact ⟨.refl system, .refl system, fun _ => rfl⟩
  · exact ⟨.refl system, .refl system, fun _ => rfl⟩

/-- What the monitor asks for is done aside. -/
theorem aside_serveMonitor (system : System) (effect : Monitor.Effect Watcher) :
    system.Aside (system.serveMonitor effect) := by
  have served : ∀ turn : Turn, system.Aside turn →
      system.Aside (turn.1, .monitor effect :: turn.2) :=
    fun turn aside => ⟨aside.hears, aside.spares, aside.silent⟩
  cases effect with
  | completed | stopWatch =>
    exact served (_, []) ⟨.of_eq (Nat.le_refl _) rfl, .of_eq rfl rfl, fun _ => rfl⟩
  | removed bundle registrations => exact served _ (.carryOut (aside_tellRemoved bundle) system _)
  | query poller request => exact served _ (aside_beginCall system _ request nofun)
  | registered | answered | pollerStarted | pollerEnded => exact served (_, []) (.refl system)

theorem aside_afterMonitor (system : System) (turn : Monitor.Turn Watcher) :
    system.Aside (system.afterMonitor turn) := by
  have served := Aside.carryOut aside_serveMonitor { system with monitor := turn.1 } turn.2
  have replaced : system.Hears { system with monitor := turn.1 } := .of_eq (Nat.le_refl _) rfl
  have spared : system.Spares { system with monitor := turn.1 } := .of_eq rfl rfl
  exact ⟨replaced.trans served.hears, spared.trans served.spares, served.silent⟩

theorem aside_stepMonitor {event : Monitor.Event Watcher} {turn : Turn}
    (stepped : system.stepMonitor event = some turn) : system.Aside turn := by
  obtain ⟨after, -, rfl⟩ := Option.map_eq_some_iff.mp stepped
  exact aside_afterMonitor system after

theorem aside_hearLine (system : System) (line : String) : system.Aside (system.hearLine line) := by
  unfold hearLine
  split
  · split
    · exact aside_afterMonitor system _
    · exact .refl system
  · exact .refl system

theorem tasks_setCall (system : System) (record : CallRecord) :
    (system.setCall record).tasks = system.tasks ∧ (system.setCall record).now = system.now := by
  unfold setCall
  split <;> exact ⟨rfl, rfl⟩

theorem aside_endLeg {call : Nat} {record : CallRecord} (found : system.call? call = some record)
    (leg : Leg) (outcome : Outcome) : system.Aside (system.endLeg record leg outcome) := by
  let booked := { system with
    health := system.health.record leg.handle outcome.isFailure system.now }
  have before : system.Spares booked := .of_eq rfl rfl
  have after : booked.Spares (booked.setCall
      { record with call := record.call.endLeg leg outcome system.now }) :=
    @spares_setCall booked call record found _ rfl rfl rfl
  obtain ⟨tasks, now⟩ := tasks_setCall booked
    { record with call := record.call.endLeg leg outcome system.now }
  exact .of_eq (Nat.le_of_eq now.symm) tasks (before.trans after) (by simp [endLeg])

/-! ## What a task asks for -/

/-- What a task asks for is done and seen, and its loops wait for the calls that they make. -/
structure Served (system : System) (id : Nat) (effects : List Task.Effect) (turn : Turn) :
    Prop where
  hears : system.Hears turn.1
  seen : ∀ other, taskEffects other turn.2 = if id = other then effects else []
  numbered : system.Numbered → turn.1.Numbered
  awaited : system.Numbered → ∀ other party, (turn.1.awaited other party).Sublist
    (system.awaited other party ++ if id = other then Task.requests party effects else [])

theorem Served.refl (system : System) (id : Nat) : system.Served id [] (system, []) where
  hears := .refl system
  seen := fun other => by split <;> rfl
  numbered := fun numbered => numbered
  awaited := fun _ other party => List.sublist_append_left _ _

/-- Of an effect of a task and what is done for it, the effect is seen. -/
theorem taskEffects_task {id other : Nat} {effects : List Effect}
    (silent : taskEffects other effects = []) (effect : Task.Effect) :
    taskEffects other (.task id effect :: effects) = if id = other then [effect] else [] := by
  by_cases same : id = other
  · simpa [taskEffects, List.filterMap_cons, same] using silent
  · simpa [taskEffects, List.filterMap_cons, same] using silent

/-- What is done aside for a single effect of a task. -/
theorem Aside.served {turn : Turn} (aside : system.Aside turn) (id : Nat) (effect : Task.Effect) :
    system.Served id [effect] (turn.1, .task id effect :: turn.2) where
  hears := aside.hears
  seen := fun other => taskEffects_task (aside.silent other) effect
  numbered := aside.spares.numbered
  awaited := fun numbered other party => by
    rw [aside.spares.awaited numbered]
    exact List.sublist_append_left _ _

/-- One thing after another is done and seen. -/
theorem Served.trans {id : Nat} {first second : List Task.Effect} {turn after : Turn}
    (before : system.Served id first turn) (later : turn.1.Served id second after) :
    system.Served id (first ++ second) (after.1, turn.2 ++ after.2) where
  hears := before.hears.trans later.hears
  seen := fun other => by
    rw [taskEffects_append, before.seen, later.seen]
    split <;> rfl
  numbered := fun numbered => later.numbered (before.numbered numbered)
  awaited := fun numbered other party => by
    have now := before.awaited numbered other party
    have next := later.awaited (before.numbered numbered) other party
    have both : (if id = other then Task.requests party (first ++ second) else []) =
        (if id = other then Task.requests party first else []) ++
          if id = other then Task.requests party second else [] := by
      split
      · exact List.filterMap_append
      · rfl
    rw [both, ← List.append_assoc]
    exact next.trans (now.append_right _)

/-- A call of a task goes out through a client of its engine, if that is there. -/
theorem serveTask_call (engine id : Nat) (bundle : Hash) (system : System) (party : Party)
    (role : Role) (request : Request) :
    (∃ present, system.engines[engine]? = some present ∧
      serveTask engine id bundle system (.call party role request) =
        ((system.beginCall (.loop id party) (present.client role) request).1,
          .task id (.call party role request) ::
            (system.beginCall (.loop id party) (present.client role) request).2)) ∨
      serveTask engine id bundle system (.call party role request) =
        (system, [.task id (.call party role request)]) := by
  cases found : system.engines[engine]? with
  | some present => exact .inl ⟨present, rfl, by simp only [serveTask, found]⟩
  | none => exact .inr (by simp only [serveTask, found])

theorem served_serveTask (engine id : Nat) (bundle : Hash) (system : System)
    (effect : Task.Effect) :
    system.Served id [effect] (serveTask engine id bundle system effect) := by
  have recorded : ∀ next : System, next.now = system.now → next.tasks = system.tasks →
      next.calls = system.calls → next.nextCall = system.nextCall →
      system.Served id [effect] (next, [.task id effect]) :=
    fun next now tasks calls nextCall => @Aside.served system (next, [])
      (.of_eq (Nat.le_of_eq now.symm) tasks (.of_eq calls nextCall) (by simp)) id effect
  cases effect with
  | call party role request =>
    obtain ⟨present, -, called⟩ | called :=
      serveTask_call engine id bundle system party role request
    · rw [called]
      obtain ⟨hears, silent⟩ :=
        system.hears_beginCall (.loop id party) (present.client role) request
      refine ⟨hears, fun other => taskEffects_task (silent other) _,
        fun numbered => numbered.beginCall _ _ request, fun _ other asking => ?_⟩
      have begun := system.awaited_beginCall (.loop id party) (present.client role) request other
        asking
      by_cases same : id = other
      · by_cases own : party = asking <;>
          simpa [Task.requests, Task.Effect.request?, same, own] using begun
      · simpa [same] using begun
    · rw [called]
      exact (Aside.refl system).served id _
  | watch | unwatch => exact (aside_afterMonitor system _).served id _
  | forgetStopwatch | enterLoad | leaveLoad | loopEnded | finished =>
    exact recorded _ rfl rfl rfl rfl
  | began | ended | brokeOff | judged | offered | delivered => exact (Aside.refl system).served id _

/-- What is seen while the requests of a task are carried out are the requests. -/
theorem served_carryOut (engine id : Nat) (bundle : Hash) (system : System)
    (effects : List Task.Effect) :
    system.Served id effects (carryOut (serveTask engine id bundle) system effects) := by
  induction effects generalizing system with
  | nil => exact .refl system id
  | cons effect rest inductionHypothesis =>
    exact (served_serveTask engine id bundle system effect).trans (inductionHypothesis _)

/-! ## All steps -/

/-- Which events of a system are events of one of its tasks. -/
inductive Carries (system : System) : Event → Nat → Task.Event → Prop where
  | own {id event} (own : event ∈ Task.ownEvents) : Carries system (.task id event) id event
  | returned {call record id party verdict} (found : system.call? call = some record)
      (owner : record.owner = some (.loop id party))
      (decided : record.call.verdict = some verdict) :
      Carries system (.callReturned call) id (.answered party verdict)
  | cancel {id} : Carries system (.cancel id) id .cancelRequested
  | received {id} : Carries system (.received id) id .received
  | streamDropped {id} : Carries system (.streamDropped id) id .streamDropped

/-- A turn in which a single task takes a step. -/
structure Carried (system : System) (id : Nat) (event : Task.Event) (turn : Turn) (task next : Task)
    (effects : List Task.Effect) : Prop where
  present : system.task? id = some task
  move : Task.Move system.surroundings task event (next, effects)
  hears : (system.setTask id next).Hears turn.1
  seen : ∀ other, taskEffects other turn.2 = if id = other then effects else []
  numbered : system.Numbered → turn.1.Numbered
  /-- The loop whose call has returned waits for it no longer. -/
  awaited : system.Numbered → (∀ other party, (system.awaited other party).length ≤ 1) →
    ∀ other party, (turn.1.awaited other party).Sublist
      ((if id = other ∧ event.isReturn = true ∧ event.party? = some party then []
        else system.awaited other party) ++
        if id = other then Task.requests party effects else [])

/-- No task is started by the step of another. -/
theorem Carried.absent {id other : Nat} {event : Task.Event} {turn : Turn} {task next : Task}
    {effects : List Task.Effect} (carried : system.Carried id event turn task next effects)
    (absent : system.task? other = none) : turn.1.task? other = none :=
  carried.hears.absent (by simp [task?_setTask, absent])

/-- What a step of a system is to its tasks. -/
inductive Touch (system : System) (event : Event) (turn : Turn) : Prop where
  | aside (aside : system.Aside turn) (unheard : ∀ id, event.heard system id = [])
  | carried {id taskEvent task next effects} (carries : Carries system event id taskEvent)
      (carried : system.Carried id taskEvent turn task next effects)
  | started {record engine trytes} (tasks : turn.1.tasks = system.tasks ++ [record])
      (new : record.task.IsNew) (now : turn.1.now = system.now)
      (silent : ∀ id, taskEffects id turn.2 = []) (spares : system.Spares turn.1)
      (start : event = .start engine trytes) (origin : record.task.StartsFrom trytes)
      (shown : turn.2 = [.started engine system.tasks.length])

variable {event : Event} {turn : Turn}

/-- An event of a task is a step of it, and what it asks for is carried out. -/
theorem stepTask_eq_some {id : Nat} {event : Task.Event}
    (stepped : system.stepTask id event = some turn) :
    ∃ record next effects, system.tasks[id]? = some record ∧
      Task.Move system.surroundings record.task event (next, effects) ∧
      turn = carryOut (serveTask record.engine id next.setup.bundle) (system.setTask id next)
        effects := by
  unfold stepTask at stepped
  split at stepped
  · cases stepped
  · next record found =>
    split at stepped
    · cases stepped
    · next next effects moved =>
      exact ⟨record, next, effects, found, Task.step_eq_some_iff.mp moved,
        (Option.some.inj stepped).symm⟩

/-- An event of a task is carried to it, and what it asks for is done. -/
theorem served_of_stepTask {id : Nat} {event : Task.Event}
    (stepped : system.stepTask id event = some turn) :
    ∃ task next effects, system.task? id = some task ∧
      Task.Move system.surroundings task event (next, effects) ∧
      (system.setTask id next).Served id effects turn := by
  obtain ⟨record, next, effects, found, move, rfl⟩ := stepTask_eq_some stepped
  exact ⟨record.task, next, effects, task?_of_record found, move,
    served_carryOut record.engine id next.setup.bundle (system.setTask id next) effects⟩

/-- An event that is no return takes no call from a loop. -/
theorem carried_of_stepTask {id : Nat} {event : Task.Event} (unreturned : event.isReturn = false)
    (stepped : system.stepTask id event = some turn) :
    ∃ task next effects, system.Carried id event turn task next effects := by
  obtain ⟨task, next, effects, present, move, served⟩ := served_of_stepTask stepped
  have placed : system.Spares (system.setTask id next) := .of_eq rfl rfl
  refine ⟨task, next, effects, present, move, served.hears, served.seen,
    fun numbered => served.numbered (placed.numbered numbered), fun numbered _ other party => ?_⟩
  have awaited := served.awaited (placed.numbered numbered) other party
  rw [placed.awaited numbered] at awaited
  simpa [unreturned] using awaited

/-- What an event makes of the system, from what it is to the task. -/
theorem stepTask_of_move {id : Nat} {event : Task.Event} {owned : TaskRecord} {next : Task}
    {effects : List Task.Effect} (present : system.tasks[id]? = some owned)
    (moved : Task.Move system.surroundings owned.task event (next, effects)) :
    system.stepTask id event = some (carryOut (serveTask owned.engine id next.setup.bundle)
      (system.setTask id next) effects) := by
  simp only [stepTask, present, Task.step_eq_some_iff.mpr moved]

/-- What a step of a loop makes of the system, from what it is to the task. -/
theorem step_own {id : Nat} {event : Task.Event} {owned : TaskRecord} {next : Task}
    {effects : List Task.Effect} (own : event ∈ Task.ownEvents)
    (present : system.tasks[id]? = some owned)
    (moved : Task.Move system.surroundings owned.task event (next, effects)) :
    system.step (.task id event) = some (carryOut (serveTask owned.engine id next.setup.bundle)
      (system.setTask id next) effects) :=
  step_eq_some_iff.mpr (.task own (stepTask_of_move present moved))

/-- What the return of a call makes of the system, from what it is to the loop that made it. -/
theorem step_callReturned {id call : Nat} {record : CallRecord} {party : Party} {verdict : Verdict}
    {owned : TaskRecord} {next : Task} {effects : List Task.Effect}
    (found : system.call? call = some record) (owner : record.owner = some (.loop id party))
    (decided : record.call.verdict = some verdict)
    (present : (system.setCall { record with owner := none }).tasks[id]? = some owned)
    (moved : Task.Move (system.setCall { record with owner := none }).surroundings owned.task
      (.answered party verdict) (next, effects)) :
    system.step (.callReturned call) =
      some (carryOut (serveTask owned.engine id next.setup.bundle)
        ((system.setCall { record with owner := none }).setTask id next) effects) :=
  step_eq_some_iff.mpr (.returned found owner decided (stepTask_of_move present moved))

/-- The delivery of a verdict to a loop of a task is carried to the task. -/
theorem carried_of_returned {call id : Nat} {record : CallRecord} {party : Party}
    {verdict : Verdict} (found : system.call? call = some record)
    (owned : record.owner = some (.loop id party))
    (stepped : (system.setCall { record with owner := none }).stepTask id
      (.answered party verdict) = some turn) :
    ∃ task next effects, system.Carried id (.answered party verdict) turn task next effects := by
  obtain ⟨tasks, around⟩ :
      (system.setCall { record with owner := none }).tasks = system.tasks ∧
        (system.setCall { record with owner := none }).surroundings = system.surroundings := by
    unfold setCall
    split <;> exact ⟨rfl, rfl⟩
  obtain ⟨task, next, effects, present, move, served⟩ := served_of_stepTask stepped
  rw [around] at move
  have now : (system.setCall { record with owner := none }).now = system.now :=
    congrArg Task.Surroundings.now around
  have placed : (system.setTask id next).Hears
      ((system.setCall { record with owner := none }).setTask id next) :=
    .of_eq (Nat.le_of_eq now.symm) (by simp only [setTask, tasks])
  have moved : (system.setCall { record with owner := none }).Spares
      ((system.setCall { record with owner := none }).setTask id next) := .of_eq rfl rfl
  have released : system.Numbered → (system.setCall { record with owner := none }).Numbered :=
    fun numbered => numbered.setCall found rfl
  refine ⟨task, next, effects, by rw [← present, task?, task?, tasks], move,
    placed.trans served.hears, served.seen,
    fun numbered => served.numbered (moved.numbered (released numbered)),
    fun numbered single other asking => ?_⟩
  have awaited := served.awaited (moved.numbered (released numbered)) other asking
  rw [moved.awaited (released numbered)] at awaited
  obtain ⟨others, own⟩ := awaited_delivered numbered found owned other asking
  by_cases same : Owner.loop id party = .loop other asking
  · obtain ⟨rfl, rfl⟩ := Owner.loop.inj same
    rw [own rfl (single id party)] at awaited
    simpa [Task.Event.isReturn, Task.Event.party?] using awaited
  · rw [others same] at awaited
    have elsewhere : ¬(id = other ∧ (Task.Event.answered party verdict).isReturn = true ∧
        (Task.Event.answered party verdict).party? = some asking) :=
      fun both => same (by rw [both.1, Option.some.inj both.2.2])
    rwa [if_neg elsewhere]

theorem touch_of_deliver {call : Nat} {record : CallRecord} {owner : Owner} {verdict : Verdict}
    (found : system.call? call = some record) (owned : record.owner = some owner)
    (decided : record.call.verdict = some verdict)
    (delivered : system.deliver record owner verdict = some turn) :
    Touch system (.callReturned call) turn := by
  have outside : (∀ id party, owner ≠ .loop id party) →
      system.Aside (system.setCall { record with owner := none }, []) ∧
        ∀ id, Event.heard system id (.callReturned call) = [] := by
    intro other
    obtain ⟨tasks, now⟩ := tasks_setCall system { record with owner := none }
    refine ⟨⟨.of_eq (Nat.le_of_eq now.symm) tasks, ?_, fun _ => rfl⟩, fun id => ?_⟩
    · exact ⟨fun numbered => numbered.setCall found rfl, fun numbered id party =>
        (awaited_delivered numbered found owned id party).1 (other id party)⟩
    · cases owner with
      | loop task party => exact absurd rfl (other task party)
      | poller | caller => simp [Event.heard, found, owned]
  cases owner with
  | loop task party =>
    obtain ⟨before, next, effects, carried⟩ := carried_of_returned found owned delivered
    exact .carried (.returned found owned decided) carried
  | poller id =>
    obtain ⟨released, unheard⟩ := outside nofun
    have aside := aside_stepMonitor delivered
    exact .aside ⟨released.hears.trans aside.hears, released.spares.trans aside.spares,
      aside.silent⟩ unheard
  | caller name =>
    obtain ⟨released, unheard⟩ := outside nofun
    obtain rfl := Option.some.inj delivered
    exact .aside ⟨released.hears, released.spares, fun _ => rfl⟩ unheard

/-- An engine starts a task with the trytes that it is given. -/
theorem startsFrom_of_task? {engine : Engine} {tail : Transaction} {trytes : List String}
    {now : Nat} {task : Task} (read : tailOf trytes = .ok tail)
    (made : engine.task? tail trytes now = some task) : task.StartsFrom trytes := by
  simp only [Engine.task?, Option.bind_eq_bind, Option.bind_eq_some_iff, Option.pure_def,
    Option.some.injEq] at made
  obtain ⟨force, -, forced, -, rfl⟩ := made
  exact ⟨_, tail, now, forced, read, rfl, rfl⟩

/-- No event of its own is the return of a call. -/
theorem isReturn_of_own : ∀ event ∈ Task.ownEvents, event.isReturn = false := by
  decide

/-- No event of its own is a signal of the monitor. -/
theorem not_signalled_of_own {event : Task.Event} (own : event ∈ Task.ownEvents) (ticket : Nat)
    (signal : Signal) : event ≠ .signalled ticket signal := by
  rintro rfl
  cases signal <;> simp [Task.ownEvents, Task.parties] at own

/-- Every step of a system leaves the tasks aside, touches a single one or starts one. -/
theorem touch (stepped : system.step event = some turn) : Touch system event turn := by
  have by_monitor : ∀ {event : Event} {monitorEvent : Monitor.Event Watcher},
      system.stepMonitor monitorEvent = some turn → (∀ id, event.heard system id = []) →
        Touch system event turn :=
    fun stepped => .aside (aside_stepMonitor stepped)
  have by_task : ∀ {event : Event} {id : Nat} {taskEvent : Task.Event},
      Carries system event id taskEvent → taskEvent.isReturn = false →
        system.stepTask id taskEvent = some turn → Touch system event turn := by
    intro event id taskEvent carries unreturned stepped
    obtain ⟨task, next, effects, carried⟩ := carried_of_stepTask unreturned stepped
    exact .carried carries carried
  cases move_of_step stepped with
  | @task id event turn own stepped => exact by_task (.own own) (isReturn_of_own event own) stepped
  | cancel stepped => exact by_task .cancel rfl stepped
  | received stepped => exact by_task .received rfl stepped
  | streamDropped stepped => exact by_task .streamDropped rfl stepped
  | poller _ _ stepped | register _ stepped | cancelRegistration stepped | cancelPolling stepped
  | notifyConfirmed stepped | feedChanged stepped => exact by_monitor stepped fun _ => rfl
  | @told place bundle registration found =>
    let left := { system with callbacks := system.callbacks.eraseIdx place }
    have aside := aside_tellConfirmed left registration
    have before : system.Hears left := .of_eq (Nat.le_refl _) rfl
    have spared : system.Spares left := .of_eq rfl rfl
    exact .aside ⟨before.trans aside.hears, spared.trans aside.spares, aside.silent⟩ fun _ => rfl
  | returned found owned decided delivered => exact touch_of_deliver found owned decided delivered
  | expired found | ended found => exact .aside (aside_endLeg found _ _) fun _ => rfl
  | passed settled forward =>
    exact .aside ⟨.of_eq forward rfl, .of_eq rfl rfl, fun _ => rfl⟩ fun _ => rfl
  | invalid | busy | overflowed =>
    exact .aside ⟨.of_eq (Nat.le_refl _) rfl, .of_eq rfl rfl, fun _ => rfl⟩ fun _ => rfl
  | started found read free made =>
    have origin := startsFrom_of_task? read made
    exact .started rfl origin.isNew rfl (fun _ => rfl) (.of_eq rfl rfl) rfl origin rfl
  | feedSpoke => exact .aside (.carryOut aside_hearLine system _) fun _ => rfl
  | request => exact .aside (aside_beginCall system _ _ nofun) fun _ => rfl
  | stopwatchStarted | stopwatchStopped | stopwatchTaken =>
    exact .aside ⟨.of_eq (Nat.le_refl _) rfl, .of_eq rfl rfl, fun _ => rfl⟩ fun _ => rfl

end System

end Inclusion
