import Inclusion.Proofs.Client
import Inclusion.Proofs.Monitor.Polls
import Inclusion.Proofs.System.Run
import Inclusion.Proofs.Task.Confirmed

/-!
# What a step of a system is to its monitor

The monitor of a system moves by events of its own pollers, by what is asked of it from outside, by
notices of the feed and by the supervisors of tasks. `Commissions` lists which event of the monitor
may come of which event of the system. Whatever the monitor asks for is carried out at once, but for
one thing: whoever is to be told of a confirmation is put in line and told later.

A turn in which nobody is told of a confirmation `Attends` to the monitor. The other steps concern
calls of pollers, and whoever comes out of the line.
-/

namespace Inclusion.System

/-- What is seen of the monitor. -/
def monitorEffects (effects : List Effect) : List (Monitor.Effect Watcher) :=
  effects.filterMap fun
    | .monitor effect => some effect
    | _ => none

/-- Those outside who have waited, and with what outcome. -/
def waits (effects : List Effect) : List (Nat × Except MonitorError Unit) :=
  effects.filterMap fun
    | .waited name outcome => some (name, outcome)
    | _ => none

/-- Those outside who are told of a confirmation. -/
def fires (effects : List Effect) : List Nat :=
  effects.filterMap fun
    | .fired name => some name
    | _ => none

@[simp] theorem monitorEffects_append (first second : List Effect) :
    monitorEffects (first ++ second) = monitorEffects first ++ monitorEffects second :=
  List.filterMap_append

@[simp] theorem waits_append (first second : List Effect) :
    waits (first ++ second) = waits first ++ waits second :=
  List.filterMap_append

@[simp] theorem fires_append (first second : List Effect) :
    fires (first ++ second) = fires first ++ fires second :=
  List.filterMap_append

theorem mem_monitorEffects {effect : Monitor.Effect Watcher} {effects : List Effect} :
    effect ∈ monitorEffects effects ↔ .monitor effect ∈ effects := by
  constructor
  · intro seen
    obtain ⟨shown, member, same⟩ := List.mem_filterMap.mp seen
    cases shown <;> simp at same
    exact same ▸ member
  · intro shown
    exact List.mem_filterMap.mpr ⟨_, shown, rfl⟩

/-- Who waits for a registration in vain once it is removed. -/
def cancelledWait? (item : Hash × Registration Watcher) :
    Option (Nat × Except MonitorError Unit) :=
  match item.2.watcher with
  | .waiter name => some (name, .error (.cancelled item.1))
  | _ => none

/-- Which event of the monitor may come of an event of the system. -/
inductive Commissions (system : System) : Event → Monitor.Event Watcher → Prop where
  | poller {poller event} (own : event ∈ Monitor.ownEvents poller) :
      Commissions system (.poller event) event
  | returned {call record id verdict} (found : system.call? call = some record)
      (owner : record.owner = some (.poller id)) (decided : record.call.verdict = some verdict) :
      Commissions system (.callReturned call) (.pollerAnswered id verdict)
  | register {bundle watcher} (outside : ∀ task, watcher ≠ .supervisor task) :
      Commissions system (.register bundle watcher) (.register bundle watcher)
  | cancelRegistration {bundle id} :
      Commissions system (.cancelRegistration bundle id) (.cancelRegistration bundle id)
  | cancelPolling {bundle} : Commissions system (.cancelPolling bundle) (.cancelPolling bundle)
  | notifyConfirmed {bundle} :
      Commissions system (.notifyConfirmed bundle) (.notifyConfirmed bundle)
  | feedChanged {connected} :
      Commissions system (.feedChanged connected) (.feedChanged connected)
  | heard {text line bundle} (member : line ∈ Text.lines text)
      (notice : noticedBundle? line = some bundle) :
      Commissions system (.feedSpoke text) (.notifyConfirmed bundle)
  | watched {event id taskEvent task} (carries : Carries system event id taskEvent)
      (present : system.task? id = some task) :
      Commissions system event (.register task.setup.bundle (.supervisor id))
  | unwatched {event id taskEvent task ticket} (carries : Carries system event id taskEvent)
      (present : system.task? id = some task) :
      Commissions system event (.cancelRegistration task.setup.bundle ticket)

/-- The tasks of a system are those of another, and no more of them have heard of a confirmation. -/
structure Quiet (system next : System) : Prop where
  setup : ∀ id task, system.task? id = some task →
    ∃ after, next.task? id = some after ∧ after.setup = task.setup
  unheard : ∀ id after, next.task? id = some after → after.HasHeard →
    ∃ task, system.task? id = some task ∧ task.HasHeard

/-- A turn in which nobody is told of a confirmation, and pollers wait for the calls that they have
waited for, but for those that ask anew. -/
structure Attends (system : System) (turn : Turn) : Prop where
  quiet : system.Quiet turn.1
  callbacks : turn.1.callbacks = system.callbacks ++ Monitor.completed (monitorEffects turn.2)
  waits : waits turn.2 = (Monitor.removed (monitorEffects turn.2)).filterMap cancelledWait?
  fires : fires turn.2 = []
  numbered : system.Numbered → turn.1.Numbered
  asked : system.Numbered → ∀ id, Monitor.queries id (monitorEffects turn.2) = [] →
    turn.1.asked (.poller id) = system.asked (.poller id)

/-- A turn that attends to the monitor, in which it moves by certain events only. -/
structure Tends (system : System) (allowed : Monitor.Event Watcher → Prop) (turn : Turn) :
    Prop where
  attends : system.Attends turn
  moves : ∃ entries, Monitor.Run system.monitor entries turn.1.monitor ∧
    Monitor.seen entries = monitorEffects turn.2 ∧ ∀ entry ∈ entries, allowed entry.event

variable {system : System} {turn : Turn} {allowed : Monitor.Event Watcher → Prop}

theorem Quiet.of_tasks {next : System} (tasks : next.tasks = system.tasks) :
    system.Quiet next := by
  have same : ∀ id, next.task? id = system.task? id := task?_congr tasks
  constructor
  · intro id task present
    exact ⟨task, (same id).trans present, rfl⟩
  · intro id after present heard
    exact ⟨after, (same id).symm.trans present, heard⟩

theorem Quiet.trans {first second third : System} (before : first.Quiet second)
    (after : second.Quiet third) : first.Quiet third where
  setup := by
    intro id task present
    obtain ⟨middle, there, same⟩ := before.setup id task present
    obtain ⟨last, present, again⟩ := after.setup id middle there
    exact ⟨last, present, again.trans same⟩
  unheard := by
    intro id last present heard
    obtain ⟨middle, there, heard⟩ := after.unheard id last present heard
    exact before.unheard id middle there heard

/-- A system of which only tasks have changed, and no more of them have heard of a confirmation. -/
structure Resembles (system next : System) : Prop where
  quiet : system.Quiet next
  callbacks : next.callbacks = system.callbacks
  calls : next.calls = system.calls
  nextCall : next.nextCall = system.nextCall
  monitor : next.monitor = system.monitor

theorem Resembles.refl (system : System) : system.Resembles system :=
  ⟨.of_tasks rfl, rfl, rfl, rfl, rfl⟩

theorem Resembles.trans {first second third : System} (before : first.Resembles second)
    (after : second.Resembles third) : first.Resembles third :=
  ⟨before.quiet.trans after.quiet, after.callbacks.trans before.callbacks,
    after.calls.trans before.calls, after.nextCall.trans before.nextCall,
    after.monitor.trans before.monitor⟩

theorem Resembles.attends (resembles : system.Resembles turn.1)
    (unseen : monitorEffects turn.2 = []) (unwaited : System.waits turn.2 = [])
    (unfired : System.fires turn.2 = []) : system.Attends turn where
  quiet := resembles.quiet
  callbacks := by rw [resembles.callbacks, unseen]; exact (List.append_nil _).symm
  waits := by rw [unwaited, unseen]; rfl
  fires := unfired
  numbered := (Spares.of_eq resembles.calls resembles.nextCall).numbered
  asked := fun _ id _ => asked_congr resembles.calls (.poller id)

theorem Attends.refl (system : System) : system.Attends (system, []) :=
  (Resembles.refl system).attends rfl rfl rfl

theorem Attends.trans {after : Turn} (before : system.Attends turn)
    (later : turn.1.Attends after) : system.Attends (after.1, turn.2 ++ after.2) where
  quiet := before.quiet.trans later.quiet
  callbacks := by
    rw [later.callbacks, before.callbacks, monitorEffects_append, Monitor.completed_append,
      List.append_assoc]
  waits := by
    rw [waits_append, before.waits, later.waits, monitorEffects_append, Monitor.removed_append,
      List.filterMap_append]
  fires := by rw [fires_append, before.fires, later.fires]; rfl
  numbered := fun numbered => later.numbered (before.numbered numbered)
  asked := by
    intro numbered id silent
    rw [monitorEffects_append, Monitor.queries_append, List.append_eq_nil_iff] at silent
    rw [later.asked (before.numbered numbered) id silent.2, before.asked numbered id silent.1]

/-- A call that begins is all that changes. -/
theorem frame_beginCall (system : System) (owner : Owner) (client : Nat) (request : Request) :
    ((system.beginCall owner client request).1.tasks = system.tasks ∧
      (system.beginCall owner client request).1.callbacks = system.callbacks ∧
      (system.beginCall owner client request).1.monitor = system.monitor) ∧
      monitorEffects (system.beginCall owner client request).2 = [] ∧
      waits (system.beginCall owner client request).2 = [] ∧
      fires (system.beginCall owner client request).2 = [] := by
  unfold beginCall
  split
  · exact ⟨⟨rfl, rfl, rfl⟩, rfl, rfl, rfl⟩
  · exact ⟨⟨rfl, rfl, rfl⟩, by simp [monitorEffects], by simp [waits], by simp [fires]⟩

/-- A call that no poller makes. -/
theorem attends_beginCall (system : System) {owner : Owner} (client : Nat) (request : Request)
    (other : ∀ id, owner ≠ .poller id) :
    system.Attends (system.beginCall owner client request) := by
  obtain ⟨⟨tasks, callbacks, -⟩, unseen, unwaited, unfired⟩ :=
    system.frame_beginCall owner client request
  refine ⟨.of_tasks tasks, ?_, ?_, unfired, fun numbered => numbered.beginCall owner client request,
    fun _ id _ => ?_⟩
  · rw [callbacks, unseen]
    exact (List.append_nil _).symm
  · rw [unwaited, unseen]
    rfl
  · rw [asked_beginCall, if_neg (other id), List.append_nil]

/-! ## What the monitor asks for -/

/-- What a signal changes is one task. -/
theorem frame_signal (system : System) (id ticket : Nat) (signal : Signal) :
    (system.signal id ticket signal).callbacks = system.callbacks ∧
      (system.signal id ticket signal).calls = system.calls ∧
      (system.signal id ticket signal).nextCall = system.nextCall ∧
      (system.signal id ticket signal).monitor = system.monitor := by
  unfold System.signal
  split
  · exact ⟨rfl, rfl, rfl, rfl⟩
  · split <;> exact ⟨rfl, rfl, rfl, rfl⟩

/-- A task that takes a step keeps its setting, and the other tasks are what they were. -/
theorem quiet_setTask {id : Nat} {task next : Task} (present : system.task? id = some task)
    (setup : next.setup = task.setup) (unheard : next.HasHeard → task.HasHeard) :
    system.Quiet (system.setTask id next) := by
  constructor
  · intro other before found
    rw [task?_setTask, found]
    split
    · next same =>
      subst same
      obtain rfl := Option.some.inj (present.symm.trans found)
      exact ⟨next, rfl, setup⟩
    · exact ⟨before, rfl, rfl⟩
  · intro other after found heard
    rw [task?_setTask] at found
    split at found
    · next same =>
      subst same
      rw [present] at found
      obtain rfl := Option.some.inj found
      exact ⟨task, present, unheard heard⟩
    · exact ⟨after, found, heard⟩

/-- To hear that a registration was removed is not to hear of a confirmation. -/
theorem resembles_signal_dropped (system : System) (id ticket : Nat) :
    system.Resembles (system.signal id ticket .dropped) := by
  obtain ⟨callbacks, calls, nextCall, monitor⟩ := frame_signal system id ticket .dropped
  refine ⟨?_, callbacks, calls, nextCall, monitor⟩
  unfold System.signal
  split
  · exact .of_tasks rfl
  · next task present =>
    split
    · next next effects stepped =>
      have move := Task.step_eq_some_iff.mp stepped
      exact quiet_setTask present move.setup fun heard => (move.hasHeard heard).resolve_right nofun
    · exact .of_tasks rfl

theorem carryOut_cons {α : Type} (act : System → α → Turn) (system : System) (first : α)
    (rest : List α) :
    carryOut act system (first :: rest) =
      ((carryOut act (act system first).1 rest).1,
        (act system first).2 ++ (carryOut act (act system first).1 rest).2) :=
  rfl

theorem resembles_tellRemoved (bundle : Hash) (system : System)
    (registrations : List (Registration Watcher)) :
    system.Resembles (carryOut (tellRemoved bundle) system registrations).1 := by
  induction registrations generalizing system with
  | nil => exact .refl system
  | cons first rest inductionHypothesis =>
    have told : system.Resembles (tellRemoved bundle system first).1 := by
      unfold tellRemoved
      split
      · exact resembles_signal_dropped system _ _
      · exact .refl system
      · exact .refl system
    exact told.trans (inductionHypothesis _)

/-- Whoever has waited for a registration that is removed has waited in vain. -/
theorem effects_tellRemoved (bundle : Hash) (system : System)
    (registrations : List (Registration Watcher)) :
    (carryOut (tellRemoved bundle) system registrations).2 =
      ((registrations.map (bundle, ·)).filterMap cancelledWait?).map fun wait =>
        .waited wait.1 wait.2 := by
  induction registrations generalizing system with
  | nil => rfl
  | cons first rest inductionHypothesis =>
    rw [carryOut_cons, inductionHypothesis, List.map_cons, List.filterMap_cons]
    obtain ⟨id, watcher⟩ := first
    cases watcher <;> rfl

/-- What the monitor asks for is carried out. -/
theorem attends_serveMonitor (system : System) (effect : Monitor.Effect Watcher) :
    system.Attends (system.serveMonitor effect) ∧
      monitorEffects (system.serveMonitor effect).2 = [effect] ∧
      (system.serveMonitor effect).1.monitor = system.monitor := by
  -- Most effects are only seen.
  have seen : ∀ next : System, system.Resembles next →
      Monitor.completed [effect] = [] → Monitor.removed [effect] = [] →
        system.Attends (next, [.monitor effect]) := by
    intro next resembles uncompleted unremoved
    exact ⟨resembles.quiet, by rw [resembles.callbacks]; simp [monitorEffects, uncompleted],
      by simp [waits, monitorEffects, unremoved], rfl,
      (Spares.of_eq resembles.calls resembles.nextCall).numbered,
      fun _ id _ => asked_congr resembles.calls (.poller id)⟩
  cases effect with
  | registered | answered | pollerStarted | pollerEnded =>
    exact ⟨seen system (.refl system) rfl rfl, rfl, rfl⟩
  | stopWatch bundle =>
    exact ⟨seen _ ⟨.of_tasks rfl, rfl, rfl, rfl, rfl⟩ rfl rfl, rfl, rfl⟩
  | completed bundle registrations =>
    refine ⟨⟨.of_tasks rfl, ?_, rfl, rfl, fun numbered => ⟨numbered.distinct, numbered.below⟩,
      fun _ _ _ => rfl⟩, rfl, rfl⟩
    simp [serveMonitor, monitorEffects, Monitor.completed]
  | removed bundle registrations =>
    have resembles := resembles_tellRemoved bundle system registrations
    have effects := effects_tellRemoved bundle system registrations
    have unseen : monitorEffects (system.serveMonitor (.removed bundle registrations)).2 =
        [.removed bundle registrations] := by
      simp [serveMonitor, effects, monitorEffects]
    refine ⟨⟨resembles.quiet, ?_, ?_, ?_,
      (Spares.of_eq resembles.calls resembles.nextCall).numbered, fun _ id _ => ?_⟩, unseen,
      resembles.monitor⟩
    · rw [unseen]
      simpa [Monitor.completed, serveMonitor] using resembles.callbacks
    · rw [unseen]
      simp [serveMonitor, effects, waits, Monitor.removed]
    · simp [serveMonitor, effects, fires]
    · exact asked_congr resembles.calls (.poller id)
  | query poller request =>
    obtain ⟨⟨tasks, callbacks, monitor⟩, unseen, unwaited, unfired⟩ :=
      system.frame_beginCall (.poller poller) system.monitorClient request
    have only : monitorEffects (system.serveMonitor (.query poller request)).2 =
        [.query poller request] := congrArg (Monitor.Effect.query poller request :: ·) unseen
    refine ⟨⟨.of_tasks tasks, ?_, ?_, unfired,
      fun numbered => numbered.beginCall _ system.monitorClient request, fun _ id silent => ?_⟩,
      only, monitor⟩
    · rw [only]
      exact callbacks.trans (List.append_nil _).symm
    · rw [only]
      exact unwaited
    · rw [only, Monitor.queries_single] at silent
      have other : Owner.poller poller ≠ .poller id := by
        rintro ⟨⟩
        simp at silent
      show (system.beginCall _ _ _).1.asked _ = _
      rw [asked_beginCall, if_neg other, List.append_nil]

theorem attends_carryOut_serveMonitor (system : System) (effects : List (Monitor.Effect Watcher)) :
    system.Attends (carryOut serveMonitor system effects) ∧
      monitorEffects (carryOut serveMonitor system effects).2 = effects ∧
      (carryOut serveMonitor system effects).1.monitor = system.monitor := by
  induction effects generalizing system with
  | nil => exact ⟨.refl system, rfl, rfl⟩
  | cons first rest inductionHypothesis =>
    obtain ⟨now, seen, kept⟩ := attends_serveMonitor system first
    obtain ⟨later, seen_later, kept_later⟩ := inductionHypothesis (system.serveMonitor first).1
    rw [carryOut_cons]
    refine ⟨now.trans later, ?_, kept_later.trans kept⟩
    rw [monitorEffects_append, seen, seen_later]
    rfl

/-! ## Turns of the monitor -/

/-- A step of the monitor, with what it asks for. -/
theorem tends_afterMonitor {event : Monitor.Event Watcher} {turn : Monitor.Turn Watcher} {now : Nat}
    (move : Monitor.Move now system.monitor event turn) :
    system.Tends (· = event) (system.afterMonitor turn) := by
  let moved : System := { system with monitor := turn.1 }
  obtain ⟨attends, seen, kept⟩ := attends_carryOut_serveMonitor moved turn.2
  have monitor : (system.afterMonitor turn).1.monitor = turn.1 := kept
  have numbered : system.Numbered → moved.Numbered :=
    fun numbered => ⟨numbered.distinct, numbered.below⟩
  refine ⟨⟨⟨attends.quiet.setup, attends.quiet.unheard⟩, attends.callbacks, attends.waits,
    attends.fires, fun before => attends.numbered (numbered before),
    fun before => attends.asked (numbered before)⟩,
    [⟨system.monitor, now, event, turn.2⟩], ?_, ?_, ?_⟩
  · rw [monitor]
    exact move.run
  · exact (Monitor.seen_single _).trans seen.symm
  · intro entry member
    rw [List.mem_singleton.mp member]

theorem Tends.mono {wider : Monitor.Event Watcher → Prop} (tends : system.Tends allowed turn)
    (more : ∀ event, allowed event → wider event) : system.Tends wider turn := by
  obtain ⟨attends, entries, run, seen, events⟩ := tends
  exact ⟨attends, entries, run, seen, fun entry member => more _ (events entry member)⟩

/-- A turn in which the monitor does nothing. -/
theorem Attends.tends (attends : system.Attends turn) (monitor : turn.1.monitor = system.monitor)
    (unseen : monitorEffects turn.2 = []) : system.Tends allowed turn :=
  ⟨attends, [], monitor ▸ .refl, unseen.symm, by simp⟩

theorem Tends.refl (system : System) : system.Tends allowed (system, []) :=
  (Attends.refl system).tends rfl rfl

/-- A turn that is nothing to the monitor and to those who have registered. -/
theorem Resembles.tends (resembles : system.Resembles turn.1)
    (unseen : monitorEffects turn.2 = []) (unwaited : System.waits turn.2 = [])
    (unfired : System.fires turn.2 = []) : system.Tends allowed turn :=
  (resembles.attends unseen unwaited unfired).tends resembles.monitor unseen

theorem Tends.trans {after : Turn} (before : system.Tends allowed turn)
    (later : turn.1.Tends allowed after) :
    system.Tends allowed (after.1, turn.2 ++ after.2) := by
  obtain ⟨attends, entries, run, seen, events⟩ := before
  obtain ⟨attends_later, more, run_later, seen_later, events_later⟩ := later
  refine ⟨attends.trans attends_later, entries ++ more, run.trans run_later, ?_, ?_⟩
  · rw [Monitor.seen_append, seen, seen_later, monitorEffects_append]
  · intro entry member
    exact (List.mem_append.mp member).elim (events entry) (events_later entry)

theorem Tends.carryOut {α : Type} {act : System → α → Turn} {items : List α}
    (tends : ∀ (system : System), ∀ item ∈ items, system.Tends allowed (act system item))
    (system : System) : system.Tends allowed (carryOut act system items) := by
  induction items generalizing system with
  | nil => exact .refl system
  | cons first rest inductionHypothesis =>
    rw [carryOut_cons]
    exact (tends system first (List.mem_cons_self ..)).trans
      (inductionHypothesis (fun system item member =>
        tends system item (List.mem_cons_of_mem _ member)) _)

/-- An event of the monitor is a step of it, and what it asks for is carried out. -/
theorem stepMonitor_eq_some {event : Monitor.Event Watcher}
    (stepped : system.stepMonitor event = some turn) :
    ∃ after, Monitor.Move system.now system.monitor event after ∧
      turn = system.afterMonitor after ∧ monitorEffects turn.2 = after.2 ∧
      turn.1.monitor = after.1 := by
  obtain ⟨after, moved, rfl⟩ := Option.map_eq_some_iff.mp stepped
  obtain ⟨-, seen, monitor⟩ :=
    attends_carryOut_serveMonitor { system with monitor := after.1 } after.2
  exact ⟨after, Monitor.step_eq_some_iff.mp moved, rfl, seen, monitor⟩

theorem tends_stepMonitor {event : Monitor.Event Watcher}
    (stepped : system.stepMonitor event = some turn) : system.Tends (· = event) turn := by
  obtain ⟨after, move, rfl, -⟩ := stepMonitor_eq_some stepped
  exact tends_afterMonitor move

/-- A line of the feed confirms the hash that it names, if any. -/
theorem tends_hearLine (system : System) (line : String) :
    system.Tends (fun event => ∃ bundle, noticedBundle? line = some bundle ∧
      event = .notifyConfirmed bundle) (system.hearLine line) := by
  unfold hearLine
  split
  · next bundle notice =>
    split
    · refine (@tends_afterMonitor _ _ _ system.now .notifyConfirmed).mono ?_
      rintro event rfl
      exact ⟨bundle, notice, rfl⟩
    · exact .refl system
  · exact .refl system

/-! ## Steps of tasks -/

/-- What is seen of a task besides is not seen of the monitor. -/
theorem Tends.after_task (id : Nat) (effect : Task.Effect) (tends : system.Tends allowed turn) :
    system.Tends allowed (turn.1, .task id effect :: turn.2) := by
  have shown : system.Tends allowed (system, [.task id effect]) :=
    (Resembles.refl system).tends rfl rfl rfl
  exact shown.trans tends

/-- A task registers for its bundle and withdraws from it, and has no other business with the
monitor. -/
theorem tends_serveTask (engine id : Nat) (bundle : Hash) (system : System)
    (effect : Task.Effect) :
    system.Tends (fun event => event = .register bundle (.supervisor id) ∨
      ∃ ticket, event = .cancelRegistration bundle ticket)
      (serveTask engine id bundle system effect) := by
  have aside : ∀ next : System, system.Resembles next →
      system.Tends (fun event => event = .register bundle (.supervisor id) ∨
        ∃ ticket, event = .cancelRegistration bundle ticket) (next, [.task id effect]) :=
    fun next resembles => @Resembles.tends system (next, _) _ resembles rfl rfl rfl
  cases effect with
  | call party role request =>
    obtain ⟨present, -, called⟩ | called :=
      serveTask_call engine id bundle system party role request
    · have begun := system.frame_beginCall (.loop id party) (present.client role) request
      have attends := @attends_beginCall system (.loop id party) (present.client role) request nofun
      rw [called]
      exact (attends.tends begun.1.2.2 begun.2.1).after_task id _
    · rw [called]
      exact aside system (.refl system)
  | watch =>
    refine (Tends.mono ?_ fun _ => .inl).after_task id .watch
    exact @tends_afterMonitor _ _ _ system.now .register
  | unwatch ticket =>
    refine (Tends.mono ?_ fun _ same => .inr ⟨ticket, same⟩).after_task id (.unwatch ticket)
    exact @tends_afterMonitor _ _ _ system.now .cancelRegistration
  | forgetStopwatch | enterLoad | leaveLoad | loopEnded | finished =>
    exact aside _ ⟨.of_tasks rfl, rfl, rfl, rfl, rfl⟩
  | began | ended | brokeOff | judged | offered | delivered => exact aside system (.refl system)

/-- A step of a task, with what it asks for. -/
theorem tends_stepTask {id : Nat} {event : Task.Event}
    (unsignalled : ∀ ticket signal, event ≠ .signalled ticket signal)
    (stepped : system.stepTask id event = some turn) :
    ∃ task, system.task? id = some task ∧
      system.Tends (fun event => event = .register task.setup.bundle (.supervisor id) ∨
        ∃ ticket, event = .cancelRegistration task.setup.bundle ticket) turn := by
  obtain ⟨record, next, effects, found, move, rfl⟩ := stepTask_eq_some stepped
  have present : system.task? id = some record.task := task?_of_record found
  have setup : next.setup = record.task.setup := move.setup
  have placed : system.Resembles (system.setTask id next) := by
    refine ⟨quiet_setTask present setup fun heard => ?_, rfl, rfl, rfl, rfl⟩
    refine (move.hasHeard heard).resolve_right ?_
    rintro ⟨ticket, same⟩
    exact unsignalled ticket .fired same
  refine ⟨record.task, present, ?_⟩
  rw [setup]
  have before := @Resembles.tends system (system.setTask id next, []) (fun event =>
    event = .register record.task.setup.bundle (.supervisor id) ∨
      ∃ ticket, event = .cancelRegistration record.task.setup.bundle ticket) placed rfl rfl rfl
  exact before.trans (Tends.carryOut (fun system effect _ => tends_serveTask ..) _)

/-! ## All steps -/

/-- An event at which nobody comes out of the line and no call of a poller returns. -/
structure Elsewhere (system : System) (event : Event) : Prop where
  untold : ∀ place, event ≠ .callbackRun place
  others : ∀ call record id, event = .callReturned call → system.call? call = some record →
    record.owner ≠ some (.poller id)

/-- What a step of a system is to its monitor and those who have registered. -/
inductive Attended (system : System) (event : Event) (turn : Turn) : Prop where
  | tended (elsewhere : system.Elsewhere event)
      (tends : system.Tends (Commissions system event) turn)
  /-- The call of a poller returns to it. -/
  | returned {call record id verdict} (begin : event = .callReturned call)
      (found : system.call? call = some record) (owner : record.owner = some (.poller id))
      (decided : record.call.verdict = some verdict)
      (stepped : (system.setCall { record with owner := none }).stepMonitor
        (.pollerAnswered id verdict) = some turn)
  /-- A leg of a call ends. -/
  | ended {call record leg outcome} (found : system.call? call = some record)
      (opened : leg ∈ record.call.legs)
      (begin : event = .legEnded call leg.place outcome ∨
        event = .legExpired call leg.place ∧ outcome.isFailure = true)
      (after : turn = system.endLeg record leg outcome)
  /-- Somebody comes out of the line. -/
  | told {place bundle registration} (begin : event = .callbackRun place)
      (found : system.callbacks[place]? = some (bundle, registration))
      (after : turn = { system with
        callbacks := system.callbacks.eraseIdx place }.tellConfirmed registration)

variable {event : Event}

theorem frame_setCall (system : System) (record : CallRecord) :
    (system.setCall record).tasks = system.tasks ∧
      (system.setCall record).callbacks = system.callbacks ∧
      (system.setCall record).monitor = system.monitor ∧
      (system.setCall record).nextCall = system.nextCall := by
  unfold setCall
  split <;> exact ⟨rfl, rfl, rfl, rfl⟩

/-- A call that no poller has made returns. -/
theorem tends_released {call : Nat} {record : CallRecord} (found : system.call? call = some record)
    {owner : Owner} (owned : record.owner = some owner) (other : ∀ id, owner ≠ .poller id) :
    system.Tends allowed (system.setCall { record with owner := none }, []) := by
  obtain ⟨tasks, callbacks, monitor, -⟩ := frame_setCall system { record with owner := none }
  have attends : system.Attends (system.setCall { record with owner := none }, []) := by
    refine ⟨.of_tasks tasks, callbacks.trans (List.append_nil _).symm, rfl, rfl,
      fun numbered => numbered.setCall found rfl, fun numbered id _ => ?_⟩
    have elsewhere : record.owner ≠ some (.poller id) := by
      rw [owned]
      exact fun same => other id (Option.some.inj same)
    exact @Numbered.asked_others _ numbered _ _ found { record with owner := none } rfl _ elsewhere
      nofun
  exact attends.tends monitor rfl

theorem Elsewhere.of_ne {event : Event} (untold : ∀ place, event ≠ .callbackRun place)
    (unreturned : ∀ call, event ≠ .callReturned call) : system.Elsewhere event :=
  ⟨untold, fun call _ _ same => absurd same (unreturned call)⟩

/-- The return of a call that no poller has made. -/
theorem elsewhere_of_returned {call : Nat} {record : CallRecord}
    (found : system.call? call = some record) {owner : Owner} (owned : record.owner = some owner)
    (other : ∀ id, owner ≠ .poller id) : system.Elsewhere (.callReturned call) := by
  refine ⟨nofun, ?_⟩
  rintro _ again id ⟨⟩ present belongs
  obtain rfl := Option.some.inj (found.symm.trans present)
  exact other id (Option.some.inj (owned.symm.trans belongs))

theorem attended_of_deliver {call : Nat} {record : CallRecord} {owner : Owner} {verdict : Verdict}
    (found : system.call? call = some record) (owned : record.owner = some owner)
    (decided : record.call.verdict = some verdict)
    (delivered : system.deliver record owner verdict = some turn) :
    Attended system (.callReturned call) turn := by
  cases owner with
  | loop id party =>
    obtain ⟨task, present, tends⟩ := tends_stepTask (by simp) delivered
    rw [task?_congr (frame_setCall ..).1] at present
    have carries : Carries system (.callReturned call) id (.answered party verdict) :=
      .returned found owned decided
    refine .tended (elsewhere_of_returned found owned nofun)
      ((tends_released found owned nofun).trans (tends.mono ?_))
    rintro event (rfl | ⟨ticket, rfl⟩)
    · exact .watched carries present
    · exact .unwatched carries present
  | poller id => exact .returned rfl found owned decided delivered
  | caller name =>
    obtain rfl := Option.some.inj delivered
    have shown : (system.setCall { record with owner := none }).Tends (Commissions system
        (.callReturned call)) (system.setCall { record with owner := none },
          [.returned name verdict]) :=
      (Resembles.refl (system.setCall { record with owner := none })).tends rfl rfl rfl
    exact .tended (elsewhere_of_returned found owned nofun)
      ((tends_released found owned nofun).trans shown)

/-- A task that is started has heard of nothing. -/
theorem quiet_started {next : System} {record : TaskRecord}
    (tasks : next.tasks = system.tasks ++ [record]) (unheard : ¬record.task.HasHeard) :
    system.Quiet next := by
  constructor
  · intro id task present
    refine ⟨task, ?_, rfl⟩
    rw [task?_concat tasks, if_neg (ne_of_present present), present]
  · intro id after present heard
    rw [task?_concat tasks] at present
    split at present
    · obtain rfl := Option.some.inj present
      exact absurd heard unheard
    · exact ⟨after, present, heard⟩

/-- Every step of a system is one of the four. -/
theorem attended (stepped : system.step event = some turn) : Attended system event turn := by
  have by_monitor : ∀ {event : Event} {monitorEvent : Monitor.Event Watcher},
      system.Elsewhere event → system.stepMonitor monitorEvent = some turn →
        Commissions system event monitorEvent → Attended system event turn := by
    intro event monitorEvent elsewhere stepped commissions
    refine .tended elsewhere ((tends_stepMonitor stepped).mono ?_)
    rintro other rfl
    exact commissions
  have by_task : ∀ {event : Event} {id : Nat} {taskEvent : Task.Event},
      Carries system event id taskEvent → (∀ ticket signal, taskEvent ≠ .signalled ticket signal) →
        system.stepTask id taskEvent = some turn → Attended system event turn := by
    intro event id taskEvent carries unsignalled stepped
    have elsewhere : system.Elsewhere event := by
      cases carries with
      | returned found owner => exact elsewhere_of_returned found owner nofun
      | _ => exact .of_ne nofun nofun
    obtain ⟨task, present, tends⟩ := tends_stepTask unsignalled stepped
    refine .tended elsewhere (tends.mono ?_)
    rintro event (rfl | ⟨ticket, rfl⟩)
    · exact .watched carries present
    · exact .unwatched carries present
  have aside : ∀ {event : Event} {next : System} {effects : List Effect},
      system.Elsewhere event → system.Resembles next →
        monitorEffects effects = [] → waits effects = [] → fires effects = [] →
          Attended system event (next, effects) :=
    fun elsewhere resembles unseen unwaited unfired =>
      .tended elsewhere (resembles.tends unseen unwaited unfired)
  cases move_of_step stepped with
  | task own stepped => exact by_task (.own own) (not_signalled_of_own own) stepped
  | cancel stepped => exact by_task .cancel (fun _ _ => nofun) stepped
  | received stepped => exact by_task .received (fun _ _ => nofun) stepped
  | streamDropped stepped => exact by_task .streamDropped (fun _ _ => nofun) stepped
  | poller member own stepped => exact by_monitor (.of_ne nofun nofun) stepped (.poller own)
  | register outside stepped => exact by_monitor (.of_ne nofun nofun) stepped (.register outside)
  | cancelRegistration stepped =>
    exact by_monitor (.of_ne nofun nofun) stepped .cancelRegistration
  | cancelPolling stepped => exact by_monitor (.of_ne nofun nofun) stepped .cancelPolling
  | notifyConfirmed stepped => exact by_monitor (.of_ne nofun nofun) stepped .notifyConfirmed
  | feedChanged stepped => exact by_monitor (.of_ne nofun nofun) stepped .feedChanged
  | told found => exact .told rfl found rfl
  | returned found owned decided delivered =>
    exact attended_of_deliver found owned decided delivered
  | @expired call place record leg found opened =>
    obtain ⟨member, at_place⟩ := Call.mem_of_leg? opened
    exact .ended found member (.inr ⟨at_place ▸ rfl, rfl⟩) rfl
  | @ended call place record leg outcome found opened =>
    obtain ⟨member, at_place⟩ := Call.mem_of_leg? opened
    exact .ended found member (.inl (at_place ▸ rfl)) rfl
  | invalid | busy => exact aside (.of_ne nofun nofun) (.refl system) rfl rfl rfl
  | passed | overflowed | stopwatchStarted | stopwatchStopped | stopwatchTaken =>
    exact aside (.of_ne nofun nofun) ⟨.of_tasks rfl, rfl, rfl, rfl, rfl⟩ rfl rfl rfl
  | @started engine trytes present tail task found read free made =>
    have unheard : ¬task.HasHeard := by
      obtain ⟨setup, tail, trytes, now, forced, rfl⟩ := (startsFrom_of_task? read made).isNew
      exact Task.not_hasHeard_start setup tail trytes now forced
    exact aside (.of_ne nofun nofun)
      ⟨@quiet_started system _ ⟨engine, task⟩ rfl unheard, rfl, rfl, rfl, rfl⟩ rfl rfl rfl
  | feedSpoke =>
    refine .tended (.of_ne nofun nofun) (Tends.carryOut (fun system line member => ?_) system)
    refine (tends_hearLine system line).mono ?_
    rintro event ⟨bundle, notice, rfl⟩
    exact .heard member notice
  | @request client request caller =>
    have frame := system.frame_beginCall (.caller caller) client request
    have attends := @attends_beginCall system (.caller caller) client request nofun
    exact .tended (.of_ne nofun nofun) (attends.tends frame.1.2.2 frame.2.1)

end Inclusion.System
