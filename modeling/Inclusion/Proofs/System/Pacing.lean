import Inclusion.Proofs.System.Attempts
import Inclusion.Proofs.System.Confirmation
import Inclusion.Proofs.Task.Pacing

/-!
# The pace of attempts in the run of a system

What keeps a loop from making an attempt goes on doing so while other parts of the system act and
while time passes, whatever nodes, the consumer and the holder of the lock take of it. So between
two moments of a run the loop keeps the pace that its settings ask for: the distance between
successes of a kind, and the pauses after a failure. Pauses are waits, and no wait is longer than
thirty years.
-/

namespace Inclusion.System

/-- An attempt of a kind begins. -/
def Moment.Begins (moment : Moment) (id : Nat) (kind : AttemptKind) : Prop :=
  .began kind ∈ taskEffects id moment.effects

/-- An attempt of a kind is completed with success. -/
def Moment.Succeeds (moment : Moment) (id : Nat) (kind : AttemptKind) : Prop :=
  Task.Succeeds kind (taskEffects id moment.effects)

/-- An attempt of a kind fails. -/
def Moment.Fails (moment : Moment) (id : Nat) (kind : AttemptKind) : Prop :=
  ∃ error, .ended kind (some error) ∈ taskEffects id moment.effects

/-- An engine with the given settings starts the task of a number. -/
def Moment.Engages (moment : Moment) (id : Nat) (config : ConfirmerConfig) : Prop :=
  ∃ engine trytes present, moment.event = .start engine trytes ∧
    moment.effects = [.started engine id] ∧ moment.before.engines[engine]? = some present ∧
      present.config = config

/-- What is said of a task at a time and goes on to hold while time passes and while the task hears
of signals. -/
structure Lasting (property : Task → Nat → Prop) : Prop where
  hears : ∀ {task heard now}, task.Hears heard → property task now → property heard now
  later : ∀ {task now later}, now ≤ later → property task now → property task later

variable {start system final : System} {before after trace : List Moment} {moment : Moment}
  {id : Nat} {kind : AttemptKind} {time : Nat} {property : Task → Nat → Prop}

/-! ## From one moment to another -/

/-- The clock does not go back in a run. -/
theorem Run.start_now (run : Run start trace final) : start.now ≤ final.now := by
  induction run with
  | refl => exact Nat.le_refl _
  | step prior stepped inductionHypothesis =>
    exact Nat.le_trans inductionHypothesis (touch stepped).now

theorem Run.now_le (run : Run start trace final) :
    ∀ moment ∈ trace, start.now ≤ moment.before.now := by
  intro moment member
  obtain ⟨before, after, rfl⟩ := List.append_of_mem member
  exact run.split.1.start_now

/-- What is seen of a task is seen of a step of it. -/
theorem moved_of_seen {event : Event} {turn : Turn} (stepped : system.step event = some turn)
    {effect : Task.Effect} (seen : effect ∈ taskEffects id turn.2) :
    ∃ task taskEvent next heard, system.task? id = some task ∧
      Task.Move system.surroundings task taskEvent (next, taskEffects id turn.2) ∧
      next.Hears heard ∧ turn.1.task? id = some heard := by
  have present : ∃ task, system.task? id = some task := by
    cases found : system.task? id with
    | some task => exact ⟨task, rfl⟩
    | none => simp [(touch stepped).silent found] at seen
  obtain ⟨task, present⟩ := present
  obtain ⟨taskEvent, next, effects, heard, -, carried, hears, placed⟩ | ⟨silent, -⟩ :=
    (touch stepped).takes present
  · have shown := carried.seen id
    rw [if_pos rfl] at shown
    exact ⟨task, taskEvent, next, heard, present, shown ▸ carried.move, hears, placed⟩
  · simp [silent] at seen

/-- What the steps of a task preserve holds of it at the end of a run, if it lasts. -/
theorem Run.lasts (run : Run start trace final) (lasting : Lasting property)
    (steps : ∀ moment ∈ trace, ∀ {task taskEvent next}, Task.Move moment.before.surroundings task
      taskEvent (next, taskEffects id moment.effects) → property task moment.before.now →
        property next moment.before.now)
    {task : Task} (present : start.task? id = some task) (holds : property task start.now) :
    ∃ last, final.task? id = some last ∧ property last final.now := by
  induction run with
  | refl => exact ⟨task, present, holds⟩
  | @step trace system event next effects prior stepped inductionHypothesis =>
    obtain ⟨middle, found, holds⟩ := inductionHypothesis
      (fun moment member => steps moment (List.mem_append_left _ member))
    have order : system.now ≤ next.now := (touch stepped).now
    obtain ⟨taskEvent, after, taken, heard, -, carried, hears, placed⟩ |
      ⟨-, heard, hears, placed⟩ := (touch stepped).takes found
    · have shown := carried.seen id
      rw [if_pos rfl] at shown
      have kept := steps ⟨system, event, effects⟩ (List.mem_append_right _ List.mem_cons_self)
        (shown ▸ carried.move) holds
      exact ⟨heard, placed, lasting.later order (lasting.hears hears kept)⟩
    · exact ⟨heard, placed, lasting.later order (lasting.hears hears holds)⟩

/-- What a step of a task brings about and later steps preserve holds at a later moment. -/
theorem Run.lasts_from {between : List Moment} {earlier : Moment}
    (run : Run start (before ++ earlier :: between) final) (lasting : Lasting property)
    {effect : Task.Effect} (seen : effect ∈ taskEffects id earlier.effects)
    (brought : ∀ {task taskEvent next}, Task.Move earlier.before.surroundings task taskEvent
      (next, taskEffects id earlier.effects) → property next earlier.before.now)
    (steps : ∀ moment ∈ between, ∀ {task taskEvent next}, earlier.before.now ≤ moment.before.now →
      Task.Move moment.before.surroundings task taskEvent
        (next, taskEffects id moment.effects) → property task moment.before.now →
        property next moment.before.now) :
    ∃ last, final.task? id = some last ∧ property last final.now := by
  obtain ⟨next, stepped, later⟩ := run.resume
  obtain ⟨task, taskEvent, after, heard, -, move, hears, placed⟩ := moved_of_seen stepped seen
  have order : earlier.before.now ≤ next.now := (touch stepped).now
  refine later.lasts lasting (fun moment member => steps moment member ?_) placed
    (lasting.later order (lasting.hears hears (brought move)))
  exact Nat.le_trans order (later.now_le moment member)

/-! ## The beginning of a task -/

/-- A signal makes no difference to the pace of attempts. -/
theorem hears_abides {task heard : Task} (hears : task.Hears heard) (kind : AttemptKind)
    (time : Nat) :
    heard.setup = task.setup ∧ (task.Abides kind time → heard.Abides kind time) := by
  cases hears with
  | nothing => exact ⟨rfl, id⟩
  | signal => exact ⟨rfl, fun abides => by cases kind <;> exact abides⟩

theorem lasting_abides (kind : AttemptKind) (time : Nat) :
    Lasting fun task _ => task.Abides kind time where
  hears := fun hears => (hears_abides hears kind time).2
  later := fun _ abides => abides

/-- A task that has just been started waits as long as its settings say before it is reattached in
any case. -/
theorem engages_of_started {event : Event} {turn : Turn} {engine : Nat} {trytes : List String}
    (stepped : system.step event = some turn) (start : event = .start engine trytes)
    (shown : turn.2 = [.started engine id]) :
    ∃ present task force, system.engines[engine]? = some present ∧
      turn.1.task? id = some task ∧ task.setup.config = present.config ∧
      present.config.forceReattachAfter? = some force ∧
      task.setup.forceReattachAfter = force.nanoseconds ∧
      task.Abides .reattachment system.now := by
  subst start
  cases move_of_step stepped with
  | invalid | busy | overflowed => simp at shown
  | @started _ _ present tail task found read free made =>
    obtain rfl : system.tasks.length = id := by simpa using shown
    simp only [Engine.task?, Option.bind_eq_bind, Option.bind_eq_some_iff, Option.pure_def,
      Option.some.injEq] at made
    obtain ⟨force, exists_force, forced, exists_time, rfl⟩ := made
    refine ⟨present, .start ⟨tail.bundle, present.promoteAddress, present.config,
      force.nanoseconds⟩ tail trytes system.now forced, force, found, ?_, rfl, exists_force, rfl,
      .inr ?_⟩
    · simp [task?]
    · exact Nat.le_of_eq (Clock.eq_of_moment? exists_time).symm

/-- A task that is there was started by an engine with its settings, and its first reattachment, as
far as it is forced, waits for the time that they say. -/
theorem Run.engaged (run : Run start trace final) (new : start.IsNew) {task : Task}
    (present : final.task? id = some task) :
    ∃ starting ∈ trace, ∃ force, starting.Engages id task.setup.config ∧
      task.setup.config.forceReattachAfter? = some force ∧
      task.setup.forceReattachAfter = force.nanoseconds ∧
      task.Abides .reattachment starting.before.now := by
  obtain ⟨starting, member, trytes, -, -, ⟨engine, event, effects⟩, -⟩ := run.alive new present
  obtain ⟨before, after, rfl⟩ := List.append_of_mem member
  obtain ⟨next, stepped, later⟩ := run.resume
  obtain ⟨engaged, initial, force, found, placed, config, exists_force, period, abides⟩ :=
    engages_of_started stepped event effects
  have order : starting.before.now ≤ next.now := (touch stepped).now
  have lasting : Lasting fun task _ => task.setup = initial.setup ∧
      task.Abides .reattachment starting.before.now := by
    refine ⟨fun hears both => ?_, fun _ both => both⟩
    obtain ⟨setup, abides⟩ := hears_abides hears .reattachment starting.before.now
    exact ⟨setup.trans both.1, abides both.2⟩
  obtain ⟨last, there, setup, abides⟩ := later.lasts lasting (fun moment member _ _ _ move both =>
      ⟨move.setup.trans both.1, move.abides (Nat.le_trans order (later.now_le moment member))
        nofun both.2⟩) placed ⟨rfl, abides⟩
  obtain rfl := Option.some.inj (there.symm.trans present)
  rw [setup, config]
  exact ⟨starting, member, force, ⟨engine, trytes, engaged, event, effects, found, rfl⟩,
    exists_force, period, abides⟩

/-! ## Attempts that begin -/

/-- After a success of a kind the next attempt of it waits for a whole period, unless it is a
promotion and a reattachment has succeeded in between. -/
theorem Run.abides (run : Run start trace final) {first between : List Moment} {earlier : Moment}
    (split : trace = first ++ earlier :: between) (succeeds : earlier.Succeeds id kind)
    (alone : kind = .promotion → ∀ other ∈ between, ¬other.Succeeds id .reattachment) :
    ∃ task, final.task? id = some task ∧ task.Abides kind earlier.before.now := by
  subst split
  obtain ⟨effect, seen⟩ : ∃ effect, effect ∈ taskEffects id earlier.effects := by
    obtain ended | broke := succeeds
    · exact ⟨_, ended⟩
    · exact ⟨_, broke⟩
  refine run.lasts_from (lasting_abides kind earlier.before.now) seen
    (fun move => move.abides_succeeded succeeds) fun other member _ _ _ order move abides => ?_
  exact move.abides order (fun promotes => alone promotes other member) abides

/-- A loop that pauses after a failure, however the settings are told, goes on pausing. -/
theorem lasting_defers (kind : AttemptKind) (time : Nat) :
    Lasting fun task now => task.Defers now kind (time + task.setup.respite kind true) where
  hears := by
    intro task heard now hears defers
    cases hears with
    | nothing => exact defers
    | signal => exact Task.Defers.of_same defers rfl (by cases kind <;> rfl)
  later := fun order defers => defers.later order

/-- After an attempt has failed its loop pauses before it makes another. -/
theorem Run.defers (run : Run start trace final) {earlier : Moment} (member : earlier ∈ trace)
    (fails : earlier.Fails id kind) :
    ∃ task, final.task? id = some task ∧
      task.Defers final.now kind (earlier.before.now + task.setup.respite kind true) := by
  obtain ⟨first, between, rfl⟩ := List.append_of_mem member
  obtain ⟨error, failed⟩ := fails
  refine run.lasts_from (lasting_defers kind earlier.before.now) failed (fun move => ?_)
    fun _ _ _ _ _ _ move defers => ?_
  · have defers := move.defers_failed failed
    rwa [← move.setup] at defers
  · have kept := move.defers defers
    rwa [← move.setup] at kept

/-- Every attempt keeps the pace that the settings of its task ask for. A promotion begins only
while nodes take the tail for one that can be promoted, and not before its time after the last one
that succeeded, unless a reattachment has succeeded since. A reattachment begins only while nodes do
not, or when more than the time of a forced one has passed since the last, or since the start.
After a failure comes the pause for it, and then the pause between two looks; each is cut to the
longest wait. -/
theorem Run.attempts_are_paced (run : Run start (before ++ moment :: after) final)
    (new : start.IsNew) (begins : moment.Begins id kind) :
    ∃ task, moment.before.task? id = some task ∧ ∃ starting ∈ before, ∃ force,
      starting.Engages id task.setup.config ∧
      task.setup.config.forceReattachAfter? = some force ∧
      (kind = .promotion → task.notPromotable = false ∧
        ∀ first earlier between, before = first ++ earlier :: between →
          earlier.Succeeds id .promotion →
          (∀ other ∈ between, ¬other.Succeeds id .reattachment) →
          earlier.before.now + task.setup.config.promoteEvery.nanoseconds ≤ moment.before.now) ∧
      (kind = .reattachment → task.notPromotable = true ∨
        starting.before.now + force.nanoseconds < moment.before.now ∧
        ∀ earlier ∈ before, earlier.Succeeds id .reattachment →
          earlier.before.now + force.nanoseconds < moment.before.now) ∧
      ∀ earlier ∈ before, earlier.Fails id kind →
        earlier.before.now + min task.setup.config.errorBackoff.nanoseconds Clock.longestWait +
          min (task.setup.pauseLength kind .tick) Clock.longestWait ≤ moment.before.now := by
  obtain ⟨prior, next, stepped⟩ := run.split
  obtain ⟨task, taskEvent, after, heard, present, move, -⟩ := moved_of_seen stepped begins
  obtain ⟨starting, member, force, engages, exists_force, period, started⟩ :=
    prior.engaged new present
  obtain ⟨promotable, due⟩ := move.began_due begins
  refine ⟨task, present, starting, member, force, engages, exists_force, ?_, ?_, ?_⟩
  · rintro rfl
    refine ⟨promotable rfl, fun first earlier between split succeeds alone => ?_⟩
    obtain ⟨same, there, abides⟩ := prior.abides split succeeds fun _ => alone
    obtain rfl := Option.some.inj (there.symm.trans present)
    exact due _ abides
  · rintro rfl
    by_cases flagged : task.notPromotable = true
    · exact .inl flagged
    · have waits {time : Nat} (abides : task.Abides .reattachment time) :
          time + force.nanoseconds < moment.before.now := by
        rw [← period]
        exact (due time abides).resolve_left flagged
      refine .inr ⟨waits started, fun earlier member succeeds => ?_⟩
      obtain ⟨first, between, split⟩ := List.append_of_mem member
      obtain ⟨same, there, abides⟩ := prior.abides split succeeds nofun
      obtain rfl := Option.some.inj (there.symm.trans present)
      exact waits abides
  · intro earlier member fails
    obtain ⟨same, there, defers⟩ := prior.defers member fails
    obtain rfl := Option.some.inj (there.symm.trans present)
    rw [Nat.add_assoc]
    exact move.began_after begins defers

/-! ## A failed attempt and the next one -/

instance (moment : Moment) (id : Nat) (kind : AttemptKind) : Decidable (moment.Begins id kind) :=
  inferInstanceAs (Decidable (_ ∈ _))

instance (moment : Moment) (id : Nat) (kind : AttemptKind) : Decidable (moment.Fails id kind) :=
  decidable_of_iff
    ((taskEffects id moment.effects).any fun
      | .ended other (some _) => other = kind
      | _ => false) <| by
    rw [List.any_eq_true]
    constructor
    · rintro ⟨effect, member, failed⟩
      cases effect with
      | ended other error =>
        cases error with
        | some error => exact ⟨error, of_decide_eq_true failed ▸ member⟩
        | none => cases failed
      | _ => cases failed
    · rintro ⟨error, member⟩
      exact ⟨_, member, decide_eq_true rfl⟩

/-- A run up to a moment and from it on, with what was found out by replaying it. -/
theorem exists_split_run {events : List Event} {count : Nat} {check : List Moment → Moment → Bool}
    (checked : (start.replay events).any (fun (trace, _) =>
      (trace.drop count).head?.any (check (trace.take count))) = true) :
    ∃ before moment after final, Run start (before ++ moment :: after) final ∧
      check before moment = true := by
  obtain ⟨trace, final, run, checked⟩ := @exists_replayed_run events start
    (fun trace _ => (trace.drop count).head?.any (check (trace.take count))) checked
  obtain ⟨moment, there, checked⟩ := (Option.any_eq_true ..).mp checked
  obtain ⟨after, rest⟩ := List.head?_eq_some_iff.mp there
  refine ⟨trace.take count, moment, after, final, ?_, checked⟩
  rw [← rest, List.take_append_drop]
  exact run

/-- Settings under which promotions are looked for often and reattachments seldom. -/
def slowReattachments : ConfirmerConfig :=
  { promoteTickMilliseconds := 100, reattachTickMilliseconds := 20000 }

/-- A run of the small system in which a promotion fails at once and the next one comes as far as
its attachment. -/
def promotedTwice : List Event :=
  let loop (event : Task.Event) : Event := .task 0 event
  [loop (.entered .checker), loop (.granted .checker), loop (.entered .promoter),
    loop (.entered .reattacher), loop (.entered .supervisor), .poller (.pollerEntered 1),
    .timePassed 100_000_000, loop (.elapsed .promoter), loop (.granted .promoter),
    .legEnded 1 0 (.failed (.http "down")), .callReturned 1, loop (.sent .promoter),
    .timePassed 5_100_000_000, loop (.elapsed .promoter),
    .timePassed 5_200_000_000, loop (.elapsed .promoter), loop (.granted .promoter),
    .legEnded 2 0 (.replied (.trytes ["A"])), .callReturned 2,
    .legEnded 3 0 (.replied (.tips ⟨.null, .null⟩)), .callReturned 3]

/-- In the run in which a promotion fails at once the next one begins as soon as both pauses are
over. -/
theorem attempts_are_paced_small : ∃ before moment after final earlier,
    Run (idle slowReattachments) (before ++ moment :: after) final ∧
      moment.Begins 0 .promotion ∧ earlier ∈ before ∧ earlier.Fails 0 .promotion ∧
      (∃ task, moment.before.task? 0 = some task ∧ task.notPromotable = false ∧
        earlier.before.now + min task.setup.config.errorBackoff.nanoseconds Clock.longestWait +
          min (task.setup.pauseLength .promotion .tick) Clock.longestWait ≤ moment.before.now) ∧
      earlier.before.now = 100_000_000 ∧ moment.before.now = 5_200_000_000 := by
  obtain ⟨before, moment, after, final, run, checked⟩ :=
    @exists_split_run
      (engaged slowReattachments 900_000_000_000 (.blank transactionLength) blankBundle)
      promotedTwice 16 (fun before moment => decide (moment.Begins 0 .promotion ∧
        moment.before.now = 5_200_000_000 ∧
        ∃ earlier ∈ before, earlier.Fails 0 .promotion ∧ earlier.before.now = 100_000_000))
      (by decide)
  obtain ⟨begins, now, earlier, member, fails, then_⟩ := of_decide_eq_true checked
  have started := Run.step .refl (@step_start slowReattachments (.ofSeconds 900) _ _
    tailOf_blankBundle (by decide) (by decide))
  have whole : Run (idle slowReattachments)
      ((startMoment slowReattachments :: before) ++ moment :: after) final := started.trans run
  obtain ⟨task, present, starting, -, force, -, -, promotes, -, paused⟩ :=
    whole.attempts_are_paced (isNew_idle _) begins
  exact ⟨_, moment, after, final, earlier, whole, begins, List.mem_cons_of_mem _ member, fails,
    ⟨task, present, (promotes rfl).1, paused earlier (List.mem_cons_of_mem _ member) fails⟩, then_,
    now⟩

/-- Settings under which a loop pauses after a failure for longer than any wait is, and the other
loops wake up seldom. They are valid. -/
def endlessBackoff : ConfirmerConfig :=
  { forceReattachAfterMinutes := 1000000000
    reattachTickMilliseconds := 18446744073709551615
    promotabilityCheckSeconds := 18446744073709551615
    errorBackoffSeconds := 18446744073709551615 }

/-- A system with those settings whose monitor asks seldom. -/
def patientSystem : System :=
  { idle endlessBackoff with
    monitor := { config := { pollIntervalSeconds := 18446744073709551615 } } }

/-- The system after the start of its task. -/
def patientlyEngaged : System :=
  { engaged endlessBackoff 60_000_000_000_000_000_000 (.blank transactionLength) blankBundle with
    monitor := { config := { pollIntervalSeconds := 18446744073709551615 } } }

theorem step_patientSystem :
    patientSystem.step (.start 0 blankBundle) = some (patientlyEngaged, [.started 0 0]) := by
  have found : patientSystem.engines[0]? = some (soleEngine endlessBackoff) := rfl
  have free : (soleEngine endlessBackoff).running = false := rfl
  have made : (soleEngine endlessBackoff).task? (.blank transactionLength) blankBundle 0 =
      some (.start ⟨(Transaction.blank transactionLength).bundle, .null, endlessBackoff,
        60_000_000_000_000_000_000⟩ (.blank transactionLength) blankBundle 0
        60_000_000_000_000_000_000) := by
    rfl
  exact step_eq_some_iff.mpr (.started found tailOf_blankBundle free made)

/-- A promotion fails half a second after the start, and thirty years later its loop has had its
pause. -/
def failedThirtyYearsAgo : List Event :=
  let loop (event : Task.Event) : Event := .task 0 event
  [loop (.entered .checker), loop (.granted .checker), loop (.entered .promoter),
    loop (.entered .reattacher), loop (.entered .supervisor), .poller (.pollerEntered 1),
    .legEnded 0 0 (.failed (.http "down")), .callReturned 0,
    .timePassed 500_000_000, loop (.elapsed .promoter), loop (.granted .promoter),
    .legEnded 1 0 (.failed (.http "down")), .callReturned 1, loop (.sent .promoter),
    .timePassed 946_080_000_000_000_000, loop (.elapsed .reattacher), loop (.granted .reattacher),
    loop (.elapsed .checker), loop (.granted .checker),
    .poller (.pollerElapsed 1), .poller (.pollerLooked 1),
    .timePassed 946_080_000_500_000_000, loop (.elapsed .promoter),
    .timePassed 946_080_001_000_000_000, loop (.elapsed .promoter), loop (.granted .promoter)]

/-- The next promotion begins earlier than the settings say. -/
theorem pause_cut_short : (∃ address, endlessBackoff.validate = .ok address) ∧
    ∃ before moment after final earlier task,
      Run patientSystem (before ++ moment :: after) final ∧ patientSystem.IsNew ∧
      moment.before.task? 0 = some task ∧ task.setup.config = endlessBackoff ∧
      moment.Begins 0 .promotion ∧ earlier ∈ before ∧ earlier.Fails 0 .promotion ∧
      moment.before.now < earlier.before.now + endlessBackoff.errorBackoff.nanoseconds +
        endlessBackoff.promoteTick.nanoseconds := by
  obtain ⟨before, moment, after, final, run, checked⟩ :=
    @exists_split_run patientlyEngaged failedThirtyYearsAgo 25
      (fun before moment => (moment.before.task? 0).any fun task => decide (
        task.setup.config = endlessBackoff ∧ moment.Begins 0 .promotion ∧
        ∃ earlier ∈ before, earlier.Fails 0 .promotion ∧
          moment.before.now < earlier.before.now + endlessBackoff.errorBackoff.nanoseconds +
            endlessBackoff.promoteTick.nanoseconds)) (by decide +kernel)
  obtain ⟨task, present, checked⟩ := (Option.any_eq_true ..).mp checked
  obtain ⟨config, begins, earlier, member, fails, early⟩ := of_decide_eq_true checked
  have started := Run.step .refl step_patientSystem
  have whole : Run patientSystem
      ((⟨patientSystem, .start 0 blankBundle, [.started 0 0]⟩ :: before) ++ moment :: after)
        final :=
    started.trans run
  exact ⟨⟨.null, by decide⟩, _, moment, after, final, earlier, task, whole,
    ⟨rfl, rfl⟩, present, config, begins, List.mem_cons_of_mem _ member, fails, early⟩

end Inclusion.System
