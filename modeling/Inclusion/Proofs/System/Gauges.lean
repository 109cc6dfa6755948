import Inclusion.Proofs.Stopwatch
import Inclusion.Proofs.System.Fates
import Inclusion.Proofs.Task.Census

/-!
# The gauges of a system

A system keeps the load, which counts the checking loops at work, and a stopwatch for every bundle.
What becomes of both at a step can be read off from what is seen of it. The load changes by what
tasks ask for. Whether the watch of a bundle runs is decided by the last word on it: the start of a
task on the bundle starts it anew, and it ends when the bundle is confirmed and when a cancelled
task on the bundle needs it no longer. The watch counts on nobody else operating it.
-/

namespace Inclusion.System

/-- What is seen of the steps of all tasks. -/
def allTaskEffects (effects : List Effect) : List Task.Effect :=
  effects.filterMap fun
    | .task _ effect => some effect
    | _ => none

/-- The word of an effect on whether the watch of a bundle runs, if it says anything about it. Which
bundle a task is on is given, and which one is to be confirmed by a task that is started. -/
def Effect.word? (begun? : Option Hash) (bundle? : Nat → Option Hash) (bundle : Hash) :
    Effect → Option Bool
  | .started _ _ => if begun? = some bundle then some true else none
  | .task id .forgetStopwatch => if bundle? id = some bundle then some false else none
  | .monitor (.stopWatch other) => if other = bundle then some false else none
  | _ => none

/-- The words of effects on the watch of a bundle, in order. -/
def words (begun? : Option Hash) (bundle? : Nat → Option Hash) (bundle : Hash)
    (effects : List Effect) : List Bool :=
  effects.filterMap (Effect.word? begun? bundle? bundle)

/-- Whether somebody outside operates the stopwatch. -/
def Event.isWatchOp : Event → Bool
  | stopwatchStarted _ | stopwatchStopped _ | stopwatchTaken _ => true
  | _ => false

/-- The bundle that an engine is given to confirm by an event. -/
def Event.begun? : Event → Option Hash
  | start _ trytes => (tailOf trytes).toOption.map Transaction.bundle
  | _ => none

/-- The bundle of a task. -/
def bundle? (system : System) (id : Nat) : Option Hash :=
  (system.task? id).map fun task => task.setup.bundle

/-- A turn at which the gauges change by what is seen of it. -/
structure Gauged (begun? : Option Hash) (bundle? : Nat → Option Hash) (system : System)
    (turn : Turn) : Prop where
  load : turn.1.load = Task.onLoad (allTaskEffects turn.2) system.load
  watch : ∀ bundle, turn.1.stopwatch.isRunning bundle.text =
    (words begun? bundle? bundle turn.2).getLast?.getD (system.stopwatch.isRunning bundle.text)

variable {begun? : Option Hash} {bundle? : Nat → Option Hash} {system : System} {turn : Turn}
  {event : Event}
  {engine id : Nat} {bundle : Hash}

/-- Nothing is seen that says anything about a gauge. -/
theorem Gauged.of_eq (load : turn.1.load = system.load)
    (watch : turn.1.stopwatch = system.stopwatch) (untold : allTaskEffects turn.2 = [])
    (unsaid : ∀ bundle, words begun? bundle? bundle turn.2 = []) :
    Gauged begun? bundle? system turn where
  load := by rw [load, untold]; rfl
  watch := fun bundle => by rw [watch, unsaid]; rfl

theorem Gauged.refl (system : System) : Gauged begun? bundle? system (system, []) :=
  .of_eq rfl rfl rfl fun _ => rfl

theorem Gauged.trans {after : Turn} (before : Gauged begun? bundle? system turn)
    (later : Gauged begun? bundle? turn.1 after) :
    Gauged begun? bundle? system (after.1, turn.2 ++ after.2) where
  load := by
    rw [later.load, before.load, allTaskEffects, allTaskEffects, allTaskEffects,
      List.filterMap_append, Task.onLoad, Task.onLoad, Task.onLoad, List.foldl_append]
  watch := by
    intro bundle
    rw [later.watch, before.watch, words, words, words, List.filterMap_append, List.getLast?_append]
    cases (after.2.filterMap (Effect.word? begun? bundle? bundle)).getLast? <;> rfl

theorem Gauged.carryOut {α : Type} {act : System → α → Turn}
    (gauged : ∀ (system : System) item, Gauged begun? bundle? system (act system item))
    (system : System)
    (items : List α) : Gauged begun? bundle? system (carryOut act system items) := by
  induction items generalizing system with
  | nil => exact .refl system
  | cons first rest inductionHypothesis =>
    exact (gauged system first).trans (inductionHypothesis (act system first).1)

/-! ## What is done aside -/

theorem gauged_beginCall (system : System) (owner : Owner) (client : Nat) (request : Request) :
    Gauged begun? bundle? system (system.beginCall owner client request) := by
  unfold beginCall
  split
  · exact .refl system
  · refine .of_eq rfl rfl ?_ fun bundle => ?_
    · simp [allTaskEffects]
    · simp [words, Effect.word?]

theorem gauges_signal (system : System) (id ticket : Nat) (signal : Signal) :
    (system.signal id ticket signal).load = system.load ∧
      (system.signal id ticket signal).stopwatch = system.stopwatch := by
  unfold System.signal
  split
  · exact ⟨rfl, rfl⟩
  · split <;> exact ⟨rfl, rfl⟩

theorem gauged_tellRemoved (bundle : Hash) (system : System)
    (registration : Registration Watcher) :
    Gauged begun? bundle? system (tellRemoved bundle system registration) := by
  unfold tellRemoved
  split
  · next task _ =>
    obtain ⟨load, watch⟩ := system.gauges_signal task registration.id .dropped
    exact .of_eq load watch rfl fun _ => rfl
  · exact .refl system
  · exact .of_eq rfl rfl rfl fun _ => rfl

theorem gauged_tellConfirmed (system : System) (registration : Registration Watcher) :
    Gauged begun? bundle? system (system.tellConfirmed registration) := by
  unfold tellConfirmed
  split
  · next task _ =>
    obtain ⟨load, watch⟩ := system.gauges_signal task registration.id .fired
    exact .of_eq load watch rfl fun _ => rfl
  · exact .of_eq rfl rfl rfl fun _ => rfl
  · exact .of_eq rfl rfl rfl fun _ => rfl

theorem gauges_setCall (system : System) (record : CallRecord) :
    (system.setCall record).load = system.load ∧
      (system.setCall record).stopwatch = system.stopwatch := by
  unfold setCall
  split <;> exact ⟨rfl, rfl⟩

/-- An effect of the monitor that says nothing about a watch is seen besides. -/
theorem Gauged.monitor (gauged : Gauged begun? bundle? system turn)
    {effect : Monitor.Effect Watcher} (other : ∀ bundle, effect ≠ .stopWatch bundle) :
    Gauged begun? bundle? system (turn.1, .monitor effect :: turn.2) where
  load := gauged.load
  watch := by
    intro bundle
    have unsaid : Effect.word? begun? bundle? bundle (.monitor effect) = none := by
      unfold Effect.word?
      split
      · next same => cases same
      · next same => cases same
      · next same => exact absurd (Effect.monitor.inj same) (other _)
      · rfl
    rw [gauged.watch, words, words, List.filterMap_cons_none unsaid]

theorem gauged_serveMonitor (system : System) (effect : Monitor.Effect Watcher) :
    Gauged begun? bundle? system (system.serveMonitor effect) := by
  cases effect with
  | completed bundle registrations =>
    have line : Gauged begun? bundle? system
        ({ system with callbacks := system.callbacks ++ registrations.map (bundle, ·) }, []) :=
      .of_eq rfl rfl rfl fun _ => rfl
    exact line.monitor fun _ => nofun
  | removed bundle registrations =>
    exact (Gauged.carryOut (gauged_tellRemoved bundle) system registrations).monitor fun _ => nofun
  | query poller request =>
    exact (system.gauged_beginCall (.poller poller) system.monitorClient request).monitor
      fun _ => nofun
  | stopWatch bundle =>
    refine ⟨rfl, fun other => ?_⟩
    refine (Stopwatch.isRunning_stop system.stopwatch bundle.text other.text system.now).trans ?_
    show _ = (words begun? bundle? other [.monitor (.stopWatch bundle)]).getLast?.getD _
    by_cases same : bundle = other
    · simp [words, Effect.word?, same]
    · have texts : other.text ≠ bundle.text := fun texts => same (Hash.text_injective texts).symm
      simp [words, Effect.word?, same, texts]
  | registered | answered | pollerStarted | pollerEnded =>
    exact (Gauged.refl system).monitor fun _ => nofun

theorem gauged_afterMonitor (system : System) (after : Monitor.Turn Watcher) :
    Gauged begun? bundle? system (system.afterMonitor after) :=
  have moved : Gauged begun? bundle? system ({ system with monitor := after.1 }, []) :=
    .of_eq rfl rfl rfl fun _ => rfl
  moved.trans (Gauged.carryOut gauged_serveMonitor { system with monitor := after.1 } after.2)

theorem gauged_stepMonitor {event : Monitor.Event Watcher}
    (stepped : system.stepMonitor event = some turn) : Gauged begun? bundle? system turn := by
  obtain ⟨after, move, rfl, -⟩ := stepMonitor_eq_some stepped
  exact system.gauged_afterMonitor after

theorem gauged_hearLine (system : System) (line : String) :
    Gauged begun? bundle? system (system.hearLine line) := by
  unfold hearLine
  split
  · split
    · exact system.gauged_afterMonitor _
    · exact .refl system
  · exact .refl system

/-! ## Steps of tasks -/

/-- An effect of a task is seen besides what is done for it. -/
theorem Gauged.task (gauged : Gauged begun? bundle? system turn) {effect : Task.Effect}
    (unsaid : effect ≠ .forgetStopwatch) (weightless : ∀ load, effect.onLoad load = load) :
    Gauged begun? bundle? system (turn.1, .task id effect :: turn.2) where
  load := by
    rw [gauged.load]
    show _ = Task.onLoad (allTaskEffects turn.2) (effect.onLoad system.load)
    rw [weightless]
  watch := by
    intro bundle
    have silent : Effect.word? begun? bundle? bundle (.task id effect) = none := by
      unfold Effect.word?
      split
      · next same => cases same
      · next same => exact absurd (Effect.task.inj same).2 unsaid
      · next same => cases same
      · rfl
    rw [gauged.watch, words, words, List.filterMap_cons_none silent]

theorem gauged_serveTask (engine : Nat) (own : bundle? id = some bundle) (system : System)
    (effect : Task.Effect) :
    Gauged begun? bundle? system (serveTask engine id bundle system effect) := by
  cases effect with
  | call party role request =>
    obtain ⟨present, -, called⟩ | called :=
      serveTask_call engine id bundle system party role request
    · rw [called]
      exact (system.gauged_beginCall _ _ _).task nofun fun _ => rfl
    · rw [called]
      exact (Gauged.refl system).task nofun fun _ => rfl
  | watch => exact (system.gauged_afterMonitor _).task nofun fun _ => rfl
  | unwatch ticket => exact (system.gauged_afterMonitor _).task nofun fun _ => rfl
  | forgetStopwatch =>
    refine ⟨rfl, fun other => ?_⟩
    refine (Stopwatch.isRunning_erase system.stopwatch bundle.text other.text).trans ?_
    show _ = (words begun? bundle? other [.task id .forgetStopwatch]).getLast?.getD _
    by_cases same : bundle = other
    · simp [words, Effect.word?, own, same]
    · have texts : other.text ≠ bundle.text := fun texts => same (Hash.text_injective texts).symm
      simp [words, Effect.word?, own, same, texts]
  | enterLoad | leaveLoad => exact ⟨rfl, fun _ => rfl⟩
  | loopEnded party =>
    have left : Gauged begun? bundle? system (system.modifyEngine engine fun present =>
        { present with activeLoops := present.activeLoops - 1 }, []) :=
      .of_eq rfl rfl rfl fun _ => rfl
    exact left.task nofun fun _ => rfl
  | finished =>
    have left : Gauged begun? bundle? system
        (system.modifyEngine engine fun present => { present with running := false }, []) :=
      .of_eq rfl rfl rfl fun _ => rfl
    exact left.task nofun fun _ => rfl
  | began | ended | brokeOff | judged | offered | delivered =>
    exact (Gauged.refl system).task nofun fun _ => rfl

theorem gauged_stepTask {event : Task.Event} (stepped : system.stepTask id event = some turn)
    (known : ∀ task, system.task? id = some task → bundle? id = some task.setup.bundle) :
    Gauged begun? bundle? system turn := by
  obtain ⟨record, next, effects, found, move, rfl⟩ := stepTask_eq_some stepped
  have setup : next.setup = record.task.setup := move.setup
  have own : bundle? id = some next.setup.bundle :=
    setup ▸ known record.task (task?_of_record found)
  have moved : Gauged begun? bundle? system (system.setTask id next, []) :=
    .of_eq rfl rfl rfl fun _ => rfl
  exact moved.trans (Gauged.carryOut (gauged_serveTask record.engine own) _ effects)

/-! ## All steps -/

theorem gauged_deliver {record : CallRecord} {owner : Owner} {verdict : Verdict}
    (delivered : system.deliver record owner verdict = some turn)
    (known : ∀ id task, system.task? id = some task → bundle? id = some task.setup.bundle) :
    Gauged begun? bundle? system turn := by
  obtain ⟨load, watch⟩ := system.gauges_setCall { record with owner := none }
  obtain ⟨tasks, -⟩ := system.frame_setCall { record with owner := none }
  have left : Gauged begun? bundle? system (system.setCall { record with owner := none }, []) :=
    .of_eq load watch rfl fun _ => rfl
  cases owner with
  | loop task party =>
    refine left.trans (gauged_stepTask delivered fun owned present => known task owned ?_)
    rwa [task?_congr tasks] at present
  | poller poller => exact left.trans (gauged_stepMonitor delivered)
  | caller name =>
    obtain rfl := Option.some.inj delivered
    exact .of_eq load watch rfl fun _ => rfl

theorem gauged_endLeg (record : CallRecord) (leg : Leg) (outcome : Outcome) :
    Gauged begun? bundle? system (system.endLeg record leg outcome) := by
  obtain ⟨load, watch⟩ := { system with
    health := system.health.record leg.handle outcome.isFailure system.now }.gauges_setCall
      { record with call := record.call.endLeg leg outcome system.now }
  exact .of_eq load watch rfl fun _ => rfl

/-- At every step the gauges change by what is seen of it, unless somebody outside operates the
stopwatch. -/
theorem step_gauged (stepped : system.step event = some turn) (alone : event.isWatchOp = false) :
    Gauged event.begun? system.bundle? system turn := by
  have known : ∀ id task, system.task? id = some task →
      system.bundle? id = some task.setup.bundle :=
    fun id task present => congrArg (Option.map _) present
  cases move_of_step stepped with
  | task own stepped => exact gauged_stepTask stepped (known _)
  | cancel stepped => exact gauged_stepTask stepped (known _)
  | received stepped => exact gauged_stepTask stepped (known _)
  | streamDropped stepped => exact gauged_stepTask stepped (known _)
  | poller _ _ stepped | register _ stepped => exact gauged_stepMonitor stepped
  | cancelRegistration stepped | cancelPolling stepped | notifyConfirmed stepped
  | feedChanged stepped => exact gauged_stepMonitor stepped
  | @told place =>
    have left : Gauged none system.bundle? system
        ({ system with callbacks := system.callbacks.eraseIdx place }, []) :=
      .of_eq rfl rfl rfl fun _ => rfl
    exact left.trans (gauged_tellConfirmed _ _)
  | returned found owned decided delivered => exact gauged_deliver delivered known
  | expired | ended => exact gauged_endLeg _ _ _
  | passed | invalid | busy | overflowed => exact .of_eq rfl rfl rfl fun _ => rfl
  | @started engine trytes present tail task found read =>
    refine ⟨rfl, fun other => ?_⟩
    refine (Stopwatch.isRunning_restart system.stopwatch tail.bundle.text other.text
      system.now).trans ?_
    have begun : (Event.start engine trytes).begun? = some tail.bundle := by
      simp [Event.begun?, read, Except.toOption]
    show _ = (words _ _ other [.started engine system.tasks.length]).getLast?.getD _
    by_cases same : tail.bundle = other
    · simp [words, Effect.word?, begun, same]
    · have texts : other.text ≠ tail.bundle.text :=
        fun texts => same (Hash.text_injective texts).symm
      simp [words, Effect.word?, begun, same, texts]
  | feedSpoke => exact .carryOut gauged_hearLine _ _
  | request => exact system.gauged_beginCall _ _ _
  | stopwatchStarted | stopwatchStopped | stopwatchTaken => cases alone

end Inclusion.System
