import Inclusion.Proofs.System.Run
import Inclusion.Proofs.Task.Dialogue
import Inclusion.Proofs.Transaction.Blank

/-!
# The dialogue of a task in the run of a system

What a task says is seen of the system, and what it hears is the verdict of a call that is delivered
to one of its loops. The dialogue of a task in a run of a system is put together from both, and it
is the dialogue of the task's own run: whatever else is called, and in whatever order calls return,
a loop hears the verdict of the call that it has made last.

Nothing has been started at the beginning of the runs considered here, so that a task is known from
the moment at which it is started.
-/

namespace Inclusion.System

/-- A system in which nothing has been started. -/
structure IsNew (system : System) : Prop where
  tasks : system.tasks = []
  calls : system.calls = []

/-- What a moment adds to the dialogue of a task. -/
def Moment.acts (id : Nat) (moment : Moment) : List Task.Act :=
  moment.event.heard moment.before id ++ Task.acts (taskEffects id moment.effects)

/-- The dialogue of a task in a run. -/
def dialogue (id : Nat) (trace : List Moment) : List Task.Act :=
  trace.flatMap (Moment.acts id)

/-- A task of a number is started with given trytes. -/
def Moment.Starts (moment : Moment) (id : Nat) (trytes : List String) : Prop :=
  ∃ engine, moment.event = .start engine trytes ∧ moment.effects = [.started engine id]

/-- What has become of the task of a number: it has not been started, or its own run is followed
from its start, with the same dialogue. -/
inductive Life (id : Nat) (trace : List Moment) (system : System) : Prop where
  | unborn (absent : system.task? id = none) (unsaid : dialogue id trace = [])
      (unseen : seen id trace = [])
  | alive {task trytes initial entries moment} (present : system.task? id = some task)
      (member : moment ∈ trace) (starts : moment.Starts id trytes)
      (origin : initial.StartsFrom trytes) (follows : Follows id trace initial entries task)
      (said : Task.dialogue entries = dialogue id trace)

/-- At the end of a run every loop waits for the call that it has made last, if for any. -/
structure Converses (trace : List Moment) (system : System) : Prop where
  numbered : system.Numbered
  lives : ∀ id, Life id trace system
  awaited : ∀ id party, (system.awaited id party).Sublist
    (Task.openCall party (dialogue id trace)).toList

variable {start system final : System} {trace : List Moment} {id : Nat} {event : Event}
  {turn : Turn}

@[simp] theorem dialogue_append (first second : List Moment) :
    dialogue id (first ++ second) = dialogue id first ++ dialogue id second :=
  List.flatMap_append

@[simp] theorem dialogue_single (moment : Moment) : dialogue id [moment] = moment.acts id := by
  simp [dialogue]

theorem converses_nil (new : start.IsNew) : Converses [] start where
  numbered := ⟨by simp [new.calls], by simp [new.calls]⟩
  lives := fun id => .unborn (by simp [task?, new.tasks]) rfl rfl
  awaited := fun id party => by simp [awaited, new.calls]

/-! ## What a task hears -/

/-- A verdict is heard by one task alone. -/
theorem Carries.unheard {other : Nat} {taskEvent : Task.Event}
    (carries : Carries system event other taskEvent) (different : other ≠ id) :
    event.heard system id = [] := by
  cases carries with
  | returned found owner decided => simp [Event.heard, found, owner, decided, different]
  | _ => rfl

/-- What a task hears is the verdict of the call that its loop has made last. -/
theorem Carries.heard {taskEvent : Task.Event} (carries : Carries system event id taskEvent)
    {said : List Task.Act} (awaited : ∀ party, (system.awaited id party).Sublist
      (Task.openCall party said).toList) : event.heard system id = taskEvent.heard said := by
  cases carries with
  | @returned call record _ party verdict found owner decided =>
    have opened : Task.openCall party said = some record.call.request :=
      Option.mem_toList.mp ((awaited party).subset (mem_awaited found owner))
    simp [Event.heard, Task.Event.heard, found, owner, decided, opened]
  | own own =>
    have unreturned := isReturn_of_own _ own
    cases taskEvent with
    | answered => cases unreturned
    | _ => rfl
  | cancel | received | streamDropped => rfl

/-! ## Steps -/

/-- A moment at which a task neither hears nor says anything leaves its life as it is, but for a
signal of the monitor. -/
theorem Life.goes_on (life : Life id trace system) (moment : Moment)
    (unheard : moment.event.heard moment.before id = [])
    (silent : taskEffects id moment.effects = []) {next : System}
    (absent : system.task? id = none → next.task? id = none)
    (told : ∀ task, system.task? id = some task →
      ∃ heard, task.Hears heard ∧ next.task? id = some heard) :
    Life id (trace ++ [moment]) next := by
  have unsaid : moment.acts id = [] := by
    rw [Moment.acts, unheard, silent]
    rfl
  cases life with
  | unborn before said seen =>
    exact .unborn (absent before) (by simp [said, unsaid]) (by simp [seen, silent])
  | alive present member starts origin follows said =>
    obtain ⟨heard, hears, placed⟩ := told _ present
    obtain ⟨longer, follows, same⟩ := (follows.aside moment silent).hears hears
    refine .alive placed (List.mem_append_left _ member) starts origin follows ?_
    rw [same, said, dialogue_append, dialogue_single, unsaid, List.append_nil]

/-- A task that is started begins its life. -/
theorem Life.begins (life : Life id trace system) {record : TaskRecord} {trytes : List String}
    {moment : Moment} (absent : system.task? id = none) {next : System}
    (present : next.task? id = some record.task) (starts : moment.Starts id trytes)
    (origin : record.task.StartsFrom trytes) :
    Life id (trace ++ [moment]) next := by
  cases life with
  | alive there => simp [absent] at there
  | unborn before said seen =>
    obtain ⟨engine, event, effects⟩ := starts
    have unsaid : moment.acts id = [] := by
      rw [Moment.acts, event, effects]
      rfl
    refine .alive present (List.mem_append_right _ (List.mem_singleton_self _))
      ⟨engine, event, effects⟩ origin ⟨.refl, ?_, by simp⟩ ?_
    · simp [seen, effects, taskEffects]
    · simp [said, unsaid]

/-- A new task waits for nothing. -/
theorem attentive_of_isNew {initial : Task} (new : initial.IsNew) : initial.Attentive [] := by
  obtain ⟨setup, tail, trytes, now, forced, rfl⟩ := new
  intro party
  cases party <;> rfl

/-- What a task hears and says when it takes a step is added to its dialogue, and its loops wait for
the calls that are open then. -/
theorem Life.carried (life : Life id trace system) {taskEvent : Task.Event} {task next : Task}
    {effects : List Task.Effect} (carries : Carries system event id taskEvent)
    (carried : system.Carried id taskEvent turn task next effects) (numbered : system.Numbered)
    (single : ∀ other party, (system.awaited other party).length ≤ 1)
    (awaited : ∀ party, (system.awaited id party).Sublist
      (Task.openCall party (dialogue id trace)).toList) :
    Life id (trace ++ [⟨system, event, turn.2⟩]) turn.1 ∧
      ∀ party, (turn.1.awaited id party).Sublist
        (Task.openCall party (dialogue id (trace ++ [⟨system, event, turn.2⟩]))).toList := by
  have acts : Moment.acts id ⟨system, event, turn.2⟩ = Task.Entry.acts (dialogue id trace)
      ⟨task, system.surroundings, taskEvent, effects⟩ := by
    rw [Moment.acts, carries.heard awaited, carried.seen, if_pos rfl]
    rfl
  cases life with
  | unborn absent => simp [carried.present] at absent
  | alive present member starts origin follows said =>
    obtain rfl := Option.some.inj (carried.present.symm.trans present)
    have attentive : task.Attentive (dialogue id trace) :=
      said ▸ follows.run.attentive (attentive_of_isNew origin.isNew)
    have placed : (system.setTask id next).task? id = some next := by
      simp [task?_setTask, present]
    obtain ⟨heard, hears, told⟩ := carried.hears.told id next placed
    obtain ⟨longer, follows, same⟩ := (follows.carried carries carried).hears hears
    constructor
    · refine .alive told (List.mem_append_left _ member) starts origin follows ?_
      rw [same, Task.dialogue_concat, said, dialogue_append, dialogue_single, acts]
    · intro party
      rw [dialogue_append, dialogue_single, acts]
      refine attentive.waiting carried.move (awaited party) ?_
      simpa using carried.awaited numbered single id party

/-- A loop waits for one call at most, so when that returns it waits for none. -/
theorem Converses.single (converses : Converses trace system) (other : Nat) (party : Party) :
    (system.awaited other party).length ≤ 1 :=
  Nat.le_trans (converses.awaited other party).length_le Option.length_toList_le

/-- The loops of a task that neither hears nor says anything wait for the calls that they have made
last, if they wait for nothing new. -/
theorem Converses.silent (converses : Converses trace system)
    (unheard : event.heard system id = []) (unseen : taskEffects id turn.2 = [])
    (part : ∀ party, (turn.1.awaited id party).Sublist (system.awaited id party)) (party : Party) :
    (turn.1.awaited id party).Sublist
      (Task.openCall party (dialogue id (trace ++ [⟨system, event, turn.2⟩]))).toList := by
  rw [dialogue_append, dialogue_single, Moment.acts, unheard, unseen]
  simpa [Task.acts] using (part party).trans (converses.awaited id party)

/-- At a step beside the tasks no loop hears or says anything. -/
theorem Converses.aside (converses : Converses trace system) (aside : system.Aside turn)
    (unheard : ∀ id, event.heard system id = []) :
    Converses (trace ++ [⟨system, event, turn.2⟩]) turn.1 := by
  refine ⟨aside.spares.numbered converses.numbered, fun id => ?_, fun id => ?_⟩
  · exact (converses.lives id).goes_on ⟨system, event, turn.2⟩ (unheard id) (aside.silent id)
      aside.hears.absent (aside.hears.told id)
  · refine converses.silent (unheard id) (aside.silent id) fun party => ?_
    rw [aside.spares.awaited converses.numbered]

/-- At the step of a task its own loops speak and no others. -/
theorem Converses.carried (converses : Converses trace system) {other : Nat}
    {taskEvent : Task.Event} {before after : Task} {effects : List Task.Effect}
    (carries : Carries system event other taskEvent)
    (carried : system.Carried other taskEvent turn before after effects) :
    Converses (trace ++ [⟨system, event, turn.2⟩]) turn.1 := by
  obtain ⟨life, waits⟩ := (converses.lives other).carried carries carried converses.numbered
    converses.single (converses.awaited other)
  have elsewhere : ∀ id, other ≠ id → taskEffects id turn.2 = [] := fun id different => by
    rw [carried.seen, if_neg different]
  refine ⟨carried.numbered converses.numbered, fun id => ?_, fun id => ?_⟩
  · by_cases same : other = id
    · exact same ▸ life
    · refine (converses.lives id).goes_on ⟨system, event, turn.2⟩ (carries.unheard same)
        (elsewhere id same) carried.absent fun task present => ?_
      exact carried.hears.told id task (by simp [task?_setTask, same, present])
  · by_cases same : other = id
    · exact same ▸ waits
    · refine converses.silent (carries.unheard same) (elsewhere id same) fun party => ?_
      simpa [same] using carried.awaited converses.numbered converses.single id party

/-- The loops of a task that is started have said nothing yet. -/
theorem Converses.started (converses : Converses trace system) {record : TaskRecord}
    {engine : Nat} {trytes : List String} (tasks : turn.1.tasks = system.tasks ++ [record])
    (unseen : ∀ id, taskEffects id turn.2 = []) (spares : system.Spares turn.1)
    (begin : event = .start engine trytes) (origin : record.task.StartsFrom trytes)
    (shown : turn.2 = [.started engine system.tasks.length]) :
    Converses (trace ++ [⟨system, event, turn.2⟩]) turn.1 := by
  have unheard : ∀ id, event.heard system id = [] := fun id => by rw [begin]; rfl
  refine ⟨spares.numbered converses.numbered, fun id => ?_, fun id => ?_⟩
  · by_cases own : id = system.tasks.length
    · refine (converses.lives id).begins ?_ ?_ ⟨engine, begin, by rw [shown, own]⟩ origin
      · simp [task?, own]
      · rw [task?_concat tasks, if_pos own]
    · have kept : turn.1.task? id = system.task? id := by rw [task?_concat tasks, if_neg own]
      exact (converses.lives id).goes_on ⟨system, event, turn.2⟩ (unheard id) (unseen id)
        kept.trans fun task present => ⟨task, .nothing, kept.trans present⟩
  · refine converses.silent (unheard id) (unseen id) fun party => ?_
    rw [spares.awaited converses.numbered]

/-- Whatever happens, loops wait for the calls that they have made last. -/
theorem Converses.step (converses : Converses trace system)
    (stepped : system.step event = some turn) :
    Converses (trace ++ [⟨system, event, turn.2⟩]) turn.1 := by
  cases touch stepped with
  | aside aside unheard => exact converses.aside aside unheard
  | carried carries carried => exact converses.carried carries carried
  | started tasks new now unseen spares begin origin shown =>
    exact converses.started tasks unseen spares begin origin shown

/-- In every run from the beginning, loops wait for the calls that they have made last. -/
theorem Run.converses (run : Run start trace final) (new : start.IsNew) :
    Converses trace final := by
  induction run with
  | refl => exact converses_nil new
  | step prior stepped inductionHypothesis => exact inductionHypothesis.step stepped

/-- A task that is there at the end of a run from the beginning was started in it, and its own run
is followed from there. -/
theorem Run.alive (run : Run start trace final) (new : start.IsNew) {task : Task}
    (present : final.task? id = some task) :
    ∃ moment ∈ trace, ∃ trytes initial entries, moment.Starts id trytes ∧
      initial.StartsFrom trytes ∧ Follows id trace initial entries task ∧
      Task.dialogue entries = dialogue id trace := by
  cases (run.converses new).lives id with
  | unborn absent => simp [absent] at present
  | @alive other trytes initial entries moment there member starts origin follows said =>
    obtain rfl := Option.some.inj (present.symm.trans there)
    exact ⟨moment, member, trytes, initial, entries, starts, origin, follows, said⟩

/-! ## A small system in which a task is started -/

/-- An engine that has started nothing. All its calls go to one client. -/
def soleEngine (config : ConfirmerConfig) : Engine :=
  { config, promoteAddress := .null, general := 0, tipSelection := 0, proofOfWork := 0 }

/-- A system with that engine and a client of a single node. -/
def idle (config : ConfirmerConfig) : System where
  clients := [soleClient]
  monitor := { config := {} }
  engines := [soleEngine config]

theorem isNew_idle (config : ConfirmerConfig) : (idle config).IsNew :=
  ⟨rfl, rfl⟩

/-- The system after its engine has started a task for a bundle with the given tail. -/
def engaged (config : ConfirmerConfig) (force : Nat) (tail : Transaction) (trytes : List String) :
    System :=
  { idle config with
    stopwatch := ⟨[(tail.bundle.text, ⟨0, none⟩)]⟩
    engines := [{ soleEngine config with
      running := true
      activeLoops := 4
      bundle := some tail.bundle }]
    tasks := [⟨0, .start ⟨tail.bundle, .null, config, force⟩ tail trytes 0 force⟩] }

/-- The engine starts the task if the time of the first forced reattachment exists. -/
theorem step_start {config : ConfirmerConfig} {force : Duration} {tail : Transaction}
    {trytes : List String} (read : tailOf trytes = .ok tail)
    (exists_force : config.forceReattachAfter? = some force)
    (exists_time : Clock.moment? 0 force.nanoseconds = some force.nanoseconds) :
    (idle config).step (.start 0 trytes) =
      some (engaged config force.nanoseconds tail trytes, [.started 0 0]) := by
  have made : (soleEngine config).task? tail trytes 0 = some (.start
      ⟨tail.bundle, .null, config, force.nanoseconds⟩ tail trytes 0 force.nanoseconds) := by
    simp [Engine.task?, soleEngine, exists_force, exists_time]
  have found : (idle config).engines[0]? = some (soleEngine config) := rfl
  have free : (soleEngine config).running = false := rfl
  exact step_eq_some_iff.mpr (.started found read free made)

/-- A bundle of a single blank transaction. -/
def blankBundle : List String :=
  [blankText transactionLength]

theorem tailOf_blankBundle : tailOf blankBundle = .ok (.blank transactionLength) :=
  tailOf_blank []

/-- The moment at which the small system starts a task for that bundle. -/
def startMoment (config : ConfirmerConfig) : Moment :=
  ⟨idle config, .start 0 blankBundle, [.started 0 0]⟩

/-- Whether a task is to be started at a moment. -/
def Moment.isStart (moment : Moment) : Bool :=
  match moment.event with
  | .start _ _ => true
  | _ => false

/-- If nothing else is started, it is with that bundle that the task is started. -/
theorem blankBundle_of_starts {config : ConfirmerConfig} {moment : Moment} {trytes : List String}
    (alone : ∀ other ∈ trace, other.isStart = false) (member : moment ∈ startMoment config :: trace)
    (starts : moment.Starts id trytes) : trytes = blankBundle := by
  obtain ⟨engine, event, -⟩ := starts
  obtain rfl | later := List.mem_cons.mp member
  · exact (Event.start.inj event).2.symm
  · have never := alone moment later
    simp [Moment.isStart, event] at never

/-- A run from that moment on, with what was found out about it and the task by replaying it. -/
theorem exists_engaged_run {config : ConfirmerConfig} {force : Duration} {events : List Event}
    {check : List Moment → System → Task → Bool}
    (exists_force : config.forceReattachAfter? = some force)
    (exists_time : Clock.moment? 0 force.nanoseconds = some force.nanoseconds)
    (checked : ((engaged config force.nanoseconds (.blank transactionLength)
      blankBundle).replay events).any (fun (trace, final) =>
        (final.task? 0).any (check trace final)) = true) :
    ∃ trace final task, Run (idle config) (startMoment config :: trace) final ∧
      final.task? 0 = some task ∧ check trace final task = true := by
  obtain ⟨trace, final, task, run, present, checked⟩ := exists_run checked
  have started := Run.step .refl (step_start tailOf_blankBundle exists_force exists_time)
  exact ⟨trace, final, task, started.trans run, present, checked⟩

end Inclusion.System
