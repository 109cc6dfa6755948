import Inclusion.Proofs.System.Census

/-!
# Times that do not exist

Two times are computed from settings while an engine is at work. The time after which a bundle is
reattached in any case is computed when a task is started, after the engine has been marked as
running, and the pause between two checks is computed after each check. Validation bounds neither
setting from above, so either time may not exist.

What is lost then is told here. The start of a task fails exactly if the clock has no moment for the
first forced reattachment. It leaves its engine stranded: running, without a task, and so for good.
A checking loop that nobody has told to end ends exactly if it has finished a check and the pause
that follows, doubled under load, is no duration.
-/

namespace Inclusion

/-! ## Durations computed from settings -/

namespace Duration

@[simp] theorem nanoseconds_ofSeconds (seconds : Nat) :
    (ofSeconds seconds).nanoseconds = seconds * 1000000000 := by
  simp only [ofSeconds, ofParts, Nat.add_zero]

@[simp] theorem seconds_ofSeconds (seconds : Nat) : (ofSeconds seconds).seconds = seconds := by
  rw [Duration.seconds, nanoseconds_ofSeconds, Nat.mul_div_cancel _ (by decide)]

/-- Whole seconds can be doubled if the double fits. -/
theorem double?_ofSeconds (seconds : Nat) : (ofSeconds seconds).double? =
    if 2 * seconds < secondsBound then some (ofSeconds (2 * seconds)) else none := by
  have twice : (⟨2 * (ofSeconds seconds).nanoseconds⟩ : Duration) = ofSeconds (2 * seconds) := by
    rw [nanoseconds_ofSeconds, ← Nat.mul_assoc, ofSeconds, ofParts, Nat.add_zero]
  rw [double?, seconds_ofSeconds, nanoseconds_ofSeconds, Nat.mul_mod_left, ← nanoseconds_ofSeconds,
    twice, Nat.mul_zero, Nat.zero_div, Nat.add_zero]

end Duration

namespace ConfirmerConfig

variable {config : ConfirmerConfig}

/-- The time after which a bundle is reattached in any case is a duration if its seconds fit. -/
theorem forceReattachAfter?_eq_none_iff : config.forceReattachAfter? = none ↔
    Duration.secondsBound ≤ config.forceReattachAfterMinutes.toNat * 60 := by
  simp [forceReattachAfter?]

/-- Checks slow down to half their rate under load, unless the double is no duration. -/
theorem promotabilityInterval?_eq_none_iff {running : Nat} :
    config.promotabilityInterval? running = none ↔
      config.slowDownThreshold.toNat ≤ running ∧
        Duration.secondsBound ≤ 2 * config.promotabilityCheckSeconds.toNat := by
  simp only [promotabilityInterval?, Duration.double?_ofSeconds]
  split
  · next slow => simp [slow]
  · next fast => simp [fast]

/-- Of its numbers validation asks only that they are not zero. -/
theorem validate_eq_ok_iff {address : Hash} : config.validate = .ok address ↔
    (config.promoteEverySeconds ≠ 0 ∧ config.forceReattachAfterMinutes ≠ 0 ∧
      config.promoteTickMilliseconds ≠ 0 ∧ config.reattachTickMilliseconds ≠ 0 ∧
      config.promotabilityCheckSeconds ≠ 0 ∧ config.updateSendTimeoutSeconds ≠ 0) ∧
    (∃ tag, Trytes.read config.promoteTag = .ok tag ∧ tag.length ≤ tagLength) ∧
    Hash.read config.promoteAddress = .ok address := by
  unfold validate
  split_ifs with never unforced ticks unchecked unsent
  · simp [never]
  · simp [unforced]
  · obtain none_left | none_left := ticks <;> simp [none_left]
  · simp [unchecked]
  · simp [unsent]
  · obtain ⟨promoteTicks, reattachTicks⟩ := not_or.mp ticks
    have positive : config.promoteEverySeconds ≠ 0 ∧ config.forceReattachAfterMinutes ≠ 0 ∧
        config.promoteTickMilliseconds ≠ 0 ∧ config.reattachTickMilliseconds ≠ 0 ∧
        config.promotabilityCheckSeconds ≠ 0 ∧ config.updateSendTimeoutSeconds ≠ 0 :=
      ⟨never, unforced, promoteTicks, reattachTicks, unchecked, unsent⟩
    cases Trytes.read config.promoteTag with
    | error => simp
    | ok tag =>
      by_cases long : tagLength < tag.length
      · simp [long]
      · cases Hash.read config.promoteAddress <;> simp [positive, long, Nat.not_lt.mp long]

/-- It bounds neither of the two settings: in valid ones any value but zero may stand for them. -/
theorem validate_unbounded {address : Hash} {minutes seconds : UInt64}
    (valid : config.validate = .ok address) (some_minutes : minutes ≠ 0)
    (some_seconds : seconds ≠ 0) :
    { config with
      forceReattachAfterMinutes := minutes
      promotabilityCheckSeconds := seconds }.validate = .ok address := by
  obtain ⟨⟨often, -, ticks, retries, -, sends⟩, texts⟩ := validate_eq_ok_iff.mp valid
  exact validate_eq_ok_iff.mpr
    ⟨⟨often, some_minutes, ticks, retries, some_seconds, sends⟩, texts⟩

/-- The clock has no moment for the first forced reattachment of a task that is started now. -/
def ForcesTooLate (config : ConfirmerConfig) (now : Nat) : Prop :=
  Clock.bound ≤ Clock.age + now + config.forceReattachAfterMinutes.toNat * 60 * 1000000000

/-- If the minutes are too many seconds, they lead beyond the end of the clock all the more. -/
theorem ForcesTooLate.intro
    (many : Duration.secondsBound ≤ config.forceReattachAfterMinutes.toNat * 60) (now : Nat) :
    config.ForcesTooLate now :=
  calc Clock.bound
    _ ≤ Duration.secondsBound * 1000000000 := by decide
    _ ≤ config.forceReattachAfterMinutes.toNat * 60 * 1000000000 := Nat.mul_le_mul_right _ many
    _ ≤ Clock.age + now + config.forceReattachAfterMinutes.toNat * 60 * 1000000000 :=
      Nat.le_add_left ..

end ConfirmerConfig

theorem Clock.moment?_eq_none_iff {start nanoseconds : Nat} :
    moment? start nanoseconds = none ↔ bound ≤ age + start + nanoseconds := by
  simp [moment?]

/-- That is what keeps an engine from making a task. -/
theorem Engine.task?_eq_none_iff {engine : Engine} {tail : Transaction} {trytes : List String}
    {now : Nat} : engine.task? tail trytes now = none ↔ engine.config.ForcesTooLate now := by
  by_cases many : Duration.secondsBound ≤ engine.config.forceReattachAfterMinutes.toNat * 60
  · rw [Engine.task?, ConfirmerConfig.forceReattachAfter?_eq_none_iff.mpr many]
    exact ⟨fun _ => .intro many now, fun _ => rfl⟩
  · rw [Engine.task?, ConfirmerConfig.forceReattachAfter?, if_pos (Nat.not_le.mp many),
      ConfirmerConfig.ForcesTooLate, ← Clock.moment?_eq_none_iff,
      ← Duration.nanoseconds_ofSeconds, Option.bind_eq_bind, Option.bind_some]
    cases Clock.moment? now (Duration.ofSeconds _).nanoseconds <;> simp

/-! ## The checking loop -/

namespace Task

variable {around : Surroundings} {task : Task} {event : Event} {turn : Turn}

/-- A check is finished at a step: what a node has said is noted, or the call has failed. -/
def FinishesCheck (event : Event) (effects : List Effect) : Prop :=
  (∃ tail promotable, .judged tail promotable ∈ effects) ∨
    ∃ cause, event = .answered .checker (.failed cause)

/-- After a check the checking loop ends exactly if there is no pause. -/
theorem restChecker_ended_iff : .loopEnded .checker ∈ (task.restChecker around).2 ↔
    task.setup.config.promotabilityInterval? around.load = none := by
  refine ⟨fun ended => (restChecker_ended ended).2, fun no_interval => ?_⟩
  simp [restChecker, no_interval, leaveChecker]

/-- A checking loop that nobody has told to end ends exactly if it has finished a check and there is
no pause. -/
theorem Move.checker_lost_iff (sound : task.Sound) (move : Move around task event turn)
    (going : task.stop = false) : .loopEnded .checker ∈ turn.2 ↔
      FinishesCheck event turn.2 ∧
        task.setup.config.promotabilityInterval? around.load = none := by
  have kinds : ∀ kind : AttemptKind, .checker ≠ kind.party := fun kind => by cases kind <;> nofun
  constructor
  · intro ended
    obtain ⟨kind, own, -⟩ | ⟨-, no_interval⟩ := move.ended_inv sound ended going
    · exact absurd own (kinds kind)
    · refine ⟨?_, no_interval⟩
      cases move with
      | judged => exact .inl ⟨_, _, List.mem_cons_self⟩
      | checkFailed => exact .inr ⟨_, rfl⟩
      | answered stands answered => cases answered.progress <;> simp [kinds] at ended
      | @began kind =>
        obtain ⟨stage, role, request, begun⟩ := begin_shape task kind
        simp [begun] at ended
      | checkerHalted _ stopped => exact nomatch going.symm.trans stopped
      | checkerRetired _ _ past => exact nomatch going.symm.trans (sound.stop_of_past past)
      | _ => simp [register, confirm, kinds] at ended
  · rintro ⟨finished, no_interval⟩
    cases move with
    | @judged tail promotable =>
      have same : (task.noteVerdict tail promotable).unlock.setup = task.setup :=
        (kin_noteVerdict task tail promotable).setup
      refine List.mem_cons_of_mem _ (restChecker_ended_iff.mpr ?_)
      rw [same]
      exact no_interval
    | checkFailed => exact restChecker_ended_iff.mpr no_interval
    | answered stands answered =>
      obtain ⟨tail, promotable, member⟩ | ⟨cause, same⟩ := finished
      · cases answered.progress <;> simp at member
      · exact absurd (Event.answered.inj same).1.symm (kinds _)
    | @began kind =>
      obtain ⟨stage, role, request, begun⟩ := begin_shape task kind
      simp [FinishesCheck, begun] at finished
    | _ => simp [FinishesCheck, register, leaveChecker, confirm] at finished

end Task

namespace System

variable {start system middle next final : System} {trace : List Moment} {id engine : Nat}
  {event : Event} {turn : Turn}

/-- A check of a task is finished at a moment: what a node has said is noted, or the checking loop
hears that its call has failed. -/
def Moment.FinishesCheck (moment : Moment) (id : Nat) : Prop :=
  (∃ tail promotable, .judged tail promotable ∈ taskEffects id moment.effects) ∨
    ∃ request cause, .hears .checker request (.failed cause) ∈ moment.acts id

/-- Nothing that is heard is among what is said. -/
theorem not_hears_acts {effects : List Task.Effect} {party : Party} {request : Request}
    {verdict : Verdict} : .hears party request verdict ∉ Task.acts effects := by
  intro member
  obtain ⟨effect, -, shows⟩ := List.mem_filterMap.mp member
  cases effect <;> cases shows

/-- The task whose call has failed hears of it. -/
theorem Carries.fails_iff {taskEvent : Task.Event} (carries : Carries system event id taskEvent) :
    (∃ request cause, .hears .checker request (.failed cause) ∈ event.heard system id) ↔
      ∃ cause, taskEvent = .answered .checker (.failed cause) := by
  cases carries with
  | @returned call record _ party verdict found owner decided =>
    simp [Event.heard, found, owner, decided, eq_comm]
  | own own =>
    have unreturned := isReturn_of_own _ own
    constructor
    · rintro ⟨request, cause, ⟨⟩⟩
    · rintro ⟨cause, rfl⟩
      cases unreturned
  | cancel | received | streamDropped => simp [Event.heard]

/-- No check of a task is finished at a moment at which it neither hears nor says anything. -/
theorem not_finishesCheck {moment : Moment}
    (unheard : moment.event.heard moment.before id = [])
    (silent : taskEffects id moment.effects = []) : ¬moment.FinishesCheck id := by
  simp [Moment.FinishesCheck, Moment.acts, unheard, silent, Task.acts]

/-- In a system, too, a checking loop that nobody has told to end ends exactly if it has finished a
check and there is no pause. -/
theorem Touch.checker_lost_iff (touch : Touch system event turn) {task : Task}
    (present : system.task? id = some task) (sound : task.Sound) (going : task.stop = false) :
    .loopEnded .checker ∈ taskEffects id turn.2 ↔
      Moment.FinishesCheck ⟨system, event, turn.2⟩ id ∧
        task.setup.config.promotabilityInterval? system.load = none := by
  have nothing : event.heard system id = [] → taskEffects id turn.2 = [] →
      (.loopEnded .checker ∈ taskEffects id turn.2 ↔
        Moment.FinishesCheck ⟨system, event, turn.2⟩ id ∧
          task.setup.config.promotabilityInterval? system.load = none) := by
    intro unheard silent
    have unfinished : ¬Moment.FinishesCheck ⟨system, event, turn.2⟩ id :=
      not_finishesCheck unheard silent
    simp [silent, unfinished]
  cases touch with
  | aside aside unheard => exact nothing (unheard id) (aside.silent id)
  | started _ _ _ silent _ begin => exact nothing (by rw [begin]; rfl) (silent id)
  | @carried other taskEvent before after effects carries carried =>
    by_cases same : other = id
    · subst same
      obtain rfl := Option.some.inj (carried.present.symm.trans present)
      have seen := carried.seen other
      rw [if_pos rfl] at seen
      have finished : Moment.FinishesCheck ⟨system, event, turn.2⟩ other ↔
          Task.FinishesCheck taskEvent effects := by
        rw [Moment.FinishesCheck, Task.FinishesCheck, ← carries.fails_iff, Moment.acts]
        simp [seen, not_hears_acts]
      rw [seen, finished]
      exact carried.move.checker_lost_iff sound going
    · refine nothing (carries.unheard same) ?_
      rw [carried.seen, if_neg same]

/-! ## Engines left without a task -/

/-- An engine that runs although it works on no task. -/
structure Stranded (system : System) (engine : Nat) : Prop where
  running : system.isRunning engine = true
  idle : ∀ id, ¬system.WorksOn engine id

theorem Stranded.step (stranded : system.Stranded engine)
    (progress : Progress system event turn) : turn.1.Stranded engine := by
  have kept : ∀ {after : System}, after.isRunning engine = system.isRunning engine →
      system.Hears after → after.tasks.map TaskRecord.engine =
        system.tasks.map TaskRecord.engine → after.Stranded engine := by
    intro after runs hears crew
    exact ⟨runs.trans stranded.running, fun id works =>
      stranded.idle id ((hears.worksOn crew).mp works)⟩
  cases progress with
  | waited settled forward due after =>
    rw [after]
    exact kept rfl (.of_eq forward rfl) rfl
  | kept frames =>
    exact kept (by rw [isRunning, frames.engines, isRunning]) frames.hears frames.crew
  | @worked id taskEvent record next effects carries present move frames =>
    have crew := frames.crew.trans (crew_setTask system id next)
    refine ⟨(isRunning_onEngine frames.engines engine).mpr ⟨stranded.running, ?_⟩, ?_⟩
    · -- A task that comes to its end was one that its engine works on.
      rintro rfl finished
      exact stranded.idle id ⟨engine?_of_record present, _, task?_of_record present,
        (move.finished_iff.mp finished).1⟩
    · intro other works
      exact stranded.idle other ((worksOn_of_move present move frames.hears crew _ _).mp works).1
  | @started other present task found free new now clients calls engines tasks =>
    have different : other ≠ engine := by
      rintro rfl
      cases stranded.running.symm.trans ((isRunning_of_engine found).trans free)
    refine ⟨?_, fun id works => ?_⟩
    · rw [isRunning_of_modify engines, if_neg different]
      exact stranded.running
    · rw [worksOn_concat tasks new] at works
      split at works
      · exact different works.symm
      · exact stranded.idle id works
  | @overflowed other shown after =>
    rw [after]
    refine kept ?_ (.of_eq (Nat.le_refl _) rfl) rfl
    rw [isRunning_of_modify rfl]
    split
    · have running := stranded.running
      obtain ⟨present, found, -⟩ := (Option.any_eq_true ..).mp running
      rw [running]
      simp [found]
    · rfl

/-- An engine that is stranded stays so, whatever happens. -/
theorem Run.stranded {later : List Moment} (prior : Run start trace middle) (new : start.IsNew)
    (run : Run middle later final) (stranded : middle.Stranded engine) :
    final.Stranded engine := by
  induction run with
  | refl => exact stranded
  | step before stepped inductionHypothesis =>
    have numbered := ((prior.trans before).converses new).numbered
    exact inductionHypothesis.step (progress numbered stepped)

/-- It starts nothing more. -/
theorem Stranded.refuses (stranded : system.Stranded engine) {trytes : List String}
    (stepped : system.step (.start engine trytes) = some turn) : turn.1 = system := by
  obtain ⟨present, found, running⟩ := (Option.any_eq_true ..).mp stranded.running
  obtain ⟨cause, -, rfl⟩ | ⟨-, ⟨-, rfl⟩ | ⟨free, -⟩⟩ := start_cases found stepped
  · rfl
  · rfl
  · exact nomatch running.symm.trans free

/-- A start that fails for want of a moment leaves its engine stranded. -/
theorem Run.overflowed (run : Run start trace final) (fresh : start.IsSetUp) {present : Engine}
    (found : final.engines[engine]? = some present) (free : present.running = false) :
    (final.modifyEngine engine fun present => { present with running := true }).Stranded
      engine := by
  have idle : ∀ id, ¬final.WorksOn engine id := fun id works =>
    nomatch ((run.employs fresh).2.running engine id works).symm.trans
      ((isRunning_of_engine found).trans free)
  refine ⟨?_, fun id works => idle id ⟨works.own, works.unfinished⟩⟩
  rw [isRunning_of_modify rfl, if_pos rfl, found]
  rfl

/-- What comes of a start of an engine that is free. -/
theorem Run.start_overflows (run : Run start trace final) (fresh : start.IsSetUp)
    {present : Engine} {trytes : List String} {tail : Transaction}
    (found : final.engines[engine]? = some present) (free : present.running = false)
    (read : tailOf trytes = .ok tail) :
    ∃ turn, final.step (.start engine trytes) = some turn ∧
      (.startOverflowed engine ∈ turn.2 ↔ present.config.ForcesTooLate final.now) ∧
      (.startOverflowed engine ∈ turn.2 →
        ∀ later last, Run turn.1 later last → last.Stranded engine) := by
  cases made : present.task? tail trytes final.now with
  | none =>
    have stepped := step_eq_some_iff.mpr (.overflowed found read free made)
    have late := Engine.task?_eq_none_iff.mp made
    refine ⟨_, stepped, by simp [late], fun _ later last goes_on => ?_⟩
    exact (run.step stepped).stranded fresh.toIsNew goes_on (run.overflowed fresh found free)
  | some task =>
    have stepped := step_eq_some_iff.mpr (.started found read free made)
    have intime : ¬present.config.ForcesTooLate final.now := fun late => by
      simp [Engine.task?_eq_none_iff.mpr late] at made
    exact ⟨_, stepped, by simp [intime], by simp⟩

/-- Which times computed from settings do not exist, and what is lost then.

The time after which a bundle is reattached in any case is no duration exactly if its minutes are
too many seconds, and the pause between two checks exactly if it is doubled and the double does not
fit. Whatever else is valid, validation lets such settings pass.

The start of a task by a free engine fails exactly if the clock has no moment for the first forced
reattachment, and whatever happens later the engine is stranded and starts nothing more. A checking
loop that nobody has told to end ends exactly if it has finished a check and there is no pause. -/
theorem Run.unbounded_settings (run : Run start trace final) (fresh : start.IsSetUp) :
    (∀ config : ConfirmerConfig,
      (config.forceReattachAfter? = none ↔
        Duration.secondsBound ≤ config.forceReattachAfterMinutes.toNat * 60) ∧
      (∀ running, config.promotabilityInterval? running = none ↔
        config.slowDownThreshold.toNat ≤ running ∧
          Duration.secondsBound ≤ 2 * config.promotabilityCheckSeconds.toNat) ∧
      ∀ address minutes seconds, config.validate = .ok address → minutes ≠ 0 → seconds ≠ 0 →
        { config with
          forceReattachAfterMinutes := minutes
          promotabilityCheckSeconds := seconds }.validate = .ok address) ∧
    (∀ engine present trytes tail, final.engines[engine]? = some present →
      present.running = false → tailOf trytes = .ok tail →
        ∃ turn, final.step (.start engine trytes) = some turn ∧
          (.startOverflowed engine ∈ turn.2 ↔ present.config.ForcesTooLate final.now) ∧
          (.startOverflowed engine ∈ turn.2 → ∀ later last, Run turn.1 later last →
            last.Stranded engine ∧ ∀ again next, last.step (.start engine again) = some next →
              next.1 = last)) ∧
    ∀ before moment after id task, trace = before ++ moment :: after →
      moment.before.task? id = some task → task.stop = false →
        (.loopEnded .checker ∈ taskEffects id moment.effects ↔
          moment.FinishesCheck id ∧
            task.setup.config.slowDownThreshold.toNat ≤ moment.before.load ∧
            Duration.secondsBound ≤ 2 * task.setup.config.promotabilityCheckSeconds.toNat) := by
  refine ⟨fun config => ⟨config.forceReattachAfter?_eq_none_iff, fun _ =>
    config.promotabilityInterval?_eq_none_iff, fun _ _ _ => config.validate_unbounded⟩, ?_, ?_⟩
  · intro engine present trytes tail found free read
    obtain ⟨turn, stepped, overflows, strands⟩ := run.start_overflows fresh found free read
    refine ⟨turn, stepped, overflows, fun late later last goes_on => ?_⟩
    have stranded := strands late later last goes_on
    exact ⟨stranded, fun again next => stranded.refuses⟩
  · rintro before moment after id task rfl present going
    obtain ⟨prior, next, stepped⟩ := run.split
    rw [← ConfirmerConfig.promotabilityInterval?_eq_none_iff]
    exact (touch stepped).checker_lost_iff present (prior.sound fresh.toIsNew present) going

/-- Settings under which a bundle is reattached in any case after minutes that are too many seconds.
They are valid. -/
def farAway : ConfirmerConfig :=
  { forceReattachAfterMinutes := 307445734561825861 }

/-- Settings under which the pause between two checks, doubled, is no duration. They are valid. -/
def longPause : ConfirmerConfig :=
  { promotabilityCheckSeconds := 9223372036854775808, slowDownThreshold := 1 }

/-- The system with those settings after the start of its task. -/
def pausingSystem : System :=
  engaged longPause 900_000_000_000 (.blank transactionLength) blankBundle

/-- The first check, up to the failure of its call. -/
def checkedEvents : List Event :=
  allBegun ++ [.legEnded 0 0 (.failed (.http "down"))]

/-- The system when the call has failed. -/
def checkedSystem : System :=
  ((pausingSystem.replay checkedEvents).get (by decide)).2

/-- The task that has asked. -/
def checkedTask : Task :=
  (checkedSystem.task? 0).get (by decide)

/-- What the return of the call makes of the system. -/
def checkedTurn : Turn :=
  (checkedSystem.step (.callReturned 0)).get (by decide)

/-- The run up to the failure. -/
def checkedTrace : List Moment :=
  startMoment longPause :: ((pausingSystem.replay checkedEvents).get (by decide)).1

theorem run_checked : Run (idle longPause)
    (checkedTrace ++ [⟨checkedSystem, .callReturned 0, checkedTurn.2⟩]) checkedTurn.1 := by
  have started : (idle longPause).step (.start 0 blankBundle) =
      some (pausingSystem, [.started 0 0]) :=
    @step_start longPause (.ofSeconds 900) _ _ tailOf_blankBundle (by decide) (by decide)
  have checked := @run_replay checkedEvents pausingSystem (by decide)
  have returned : checkedSystem.step (.callReturned 0) = some checkedTurn :=
    (Option.some_get _).symm
  exact ((Run.step .refl started).trans checked).step returned

/-- Under the first settings the engine is stranded by its first start; under the second ones the
checking loop ends when the call of its first check has failed. -/
theorem unbounded_settings_lost :
    (∃ turn, (idle farAway).step (.start 0 blankBundle) = some turn ∧
      ∀ later last, Run turn.1 later last → last.Stranded 0) ∧
    .loopEnded .checker ∈ taskEffects 0 checkedTurn.2 := by
  obtain ⟨-, starts, -⟩ := (@Run.refl (idle farAway)).unbounded_settings (isSetUp_idle _)
  obtain ⟨turn, stepped, overflows, strands⟩ := starts 0 _ blankBundle _ rfl rfl tailOf_blankBundle
  have late := overflows.mpr (.intro (by decide) 0)
  obtain ⟨-, -, ends⟩ := run_checked.unbounded_settings (isSetUp_idle _)
  have lost := ends checkedTrace _ [] 0 checkedTask rfl (Option.some_get _).symm (by decide)
  exact ⟨⟨turn, stepped, fun later last goes_on => (strands late later last goes_on).1⟩,
    lost.mpr ⟨.inr ⟨_, _, List.mem_cons_self⟩, by decide, by decide⟩⟩

/-- Both settings are valid, and neither time exists. The start under the first settings leaves the
engine running without a task. Under the second ones the checking loop has ended after its first
check, although its task is running and nobody has told its loops to end. -/
theorem valid_settings_overflow :
    ((∃ address, farAway.validate = .ok address) ∧ farAway.forceReattachAfter? = none ∧
      ∃ trace final, Run (idle farAway) trace final ∧ Overflowed trace 0 ∧
        final.isRunning 0 = true ∧ final.tasks = []) ∧
    (∃ address, longPause.validate = .ok address) ∧ longPause.promotabilityInterval? 1 = none ∧
      ∃ trace final task, Run (idle longPause) trace final ∧ final.task? 0 = some task ∧
        task.phase = .running ∧ task.stop = false ∧ task.cancel = false ∧
        task.checker = .done := by
  have found : (idle farAway).engines[0]? = some (soleEngine farAway) := rfl
  have late : (soleEngine farAway).config.ForcesTooLate 0 := .intro (by decide) 0
  have stepped : (idle farAway).step (.start 0 blankBundle) = some _ := step_eq_some_iff.mpr
    (.overflowed found tailOf_blankBundle rfl (Engine.task?_eq_none_iff.mpr late))
  refine ⟨⟨⟨.null, by decide⟩, by decide, _, _, Run.step .refl stepped,
    ⟨_, List.mem_cons_self, List.mem_cons_self⟩, rfl, rfl⟩, ⟨.null, by decide⟩, by decide, _, _, _,
    run_checked, (Option.some_get (by decide)).symm, ?_⟩
  decide

end System

end Inclusion
