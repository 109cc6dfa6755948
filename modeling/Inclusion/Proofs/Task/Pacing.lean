import Inclusion.Proofs.Task.Attempts
import Inclusion.Proofs.Task.Reports

/-!
# The pace of attempts

Two things keep a loop from making an attempt. One is where it stands: a loop that sleeps, or that
is still busy with an earlier attempt, makes none before it has slept. The other is when an attempt
of its kind is due. Of the loop's position `nextAttempt?` is read off, the earliest time at which it
can begin an attempt, and no step lets that time come earlier. Of the times that are due `dueTime`
is kept: a success sets the time of its own kind, and a reattachment makes a promotion due at once.
-/

namespace Inclusion

/-- A moment that exists comes so many nanoseconds later. -/
theorem Clock.eq_of_moment? {start nanoseconds moment : Nat}
    (found : moment? start nanoseconds = some moment) : moment = start + nanoseconds := by
  unfold moment? at found
  split at found
  · exact (Option.some.inj found).symm
  · cases found

/-- How long a loop that makes attempts sleeps for a pause. A pause that is longer than the longest
wait is cut to it. -/
def Setup.rest (setup : Setup) (kind : AttemptKind) (pause : Pause) : Nat :=
  min (setup.pauseLength kind pause) Clock.longestWait

/-- The pauses that a loop makes after an attempt before it looks again whether one is due. -/
def Setup.respite (setup : Setup) (kind : AttemptKind) (failed : Bool) : Nat :=
  if failed then setup.rest kind .backoff + setup.rest kind .tick else setup.rest kind .tick

/-- The earliest time at which a loop at a position can begin an attempt, unless it has ended. -/
def Attempter.nextAttempt? (setup : Setup) (kind : AttemptKind) (now : Nat) :
    Attempter → Option Nat
  | .starting => some (now + setup.rest kind .tick)
  | .sleeping .tick wake => some wake
  | .sleeping .backoff wake => some (wake + setup.rest kind .tick)
  | .queued | .attempting _ => some now
  | .sending _ failed _ => some (now + setup.respite kind failed)
  | .done => none

namespace Task

/-- No attempt of a kind begins before the given time because of where its loop stands. -/
def Defers (task : Task) (now : Nat) (kind : AttemptKind) (time : Nat) : Prop :=
  ∀ earliest, (task.attempter kind).nextAttempt? task.setup kind now = some earliest →
    time ≤ earliest

/-- The time from which an attempt of a kind is due, whatever nodes say about the tail. -/
def dueTime (task : Task) : AttemptKind → Nat
  | .promotion => task.nextPromotion
  | .reattachment => task.nextForcedReattachment

/-- No attempt of a kind is due before a whole period after the given time, or is made any more. -/
def Abides (task : Task) (kind : AttemptKind) (time : Nat) : Prop :=
  task.attempter kind = .done ∨ time + task.period kind ≤ task.dueTime kind

variable {around : Surroundings} {task : Task} {event : Event} {turn : Turn} {kind : AttemptKind}
  {now time : Nat}

/-! ## Where a loop stands -/

/-- While time passes no attempt comes earlier. -/
theorem Defers.later {later : Nat} (defers : task.Defers now kind time) (order : now ≤ later) :
    task.Defers later kind time := by
  intro earliest next
  unfold Defers at defers
  cases stands : task.attempter kind with
  | sleeping pause wake =>
    rw [stands] at defers next
    cases pause with
    | tick => exact defers earliest next
    | backoff => exact defers earliest next
  | done =>
    rw [stands] at next
    cases next
  | starting | queued | attempting | sending =>
    rw [stands] at defers next
    obtain rfl := Option.some.inj next
    have before := defers _ rfl
    omega

/-- What a loop does is told by where it stands and by the settings. -/
theorem defers_place {position : Attempter} :
    (task.place kind position).Defers now kind time ↔
      ∀ earliest, position.nextAttempt? task.setup kind now = some earliest → time ≤ earliest := by
  rw [Defers, (frame_place task kind position).2.2.2.2.2, (frame_place task kind position).2.2.2.1]

/-- Of a loop that stays where it is nothing changes. -/
theorem Defers.of_same {next : Task} (defers : task.Defers now kind time)
    (setup : next.setup = task.setup) (stays : next.attempter kind = task.attempter kind) :
    next.Defers now kind time := by
  rw [Defers, stays, setup]
  exact defers

/-- A loop that has ended makes no attempt. -/
theorem defers_done (task : Task) (now : Nat) (kind : AttemptKind) (time : Nat) :
    (task.place kind .done).Defers now kind time :=
  defers_place.mpr nofun

/-- A loop that goes to sleep makes no attempt before it has slept, and ticked if it need be. -/
theorem defers_sleep (task : Task) (now : Nat) (kind : AttemptKind) (failed : Bool) :
    (task.sleep now kind (if failed then .backoff else .tick)).Defers now kind
      (now + task.setup.respite kind failed) := by
  refine defers_place.mpr fun earliest next => ?_
  cases failed with
  | false => exact Nat.le_of_eq (Option.some.inj next)
  | true =>
    obtain rfl := Option.some.inj next
    exact Nat.le_of_eq (Nat.add_assoc ..).symm

/-- An attempt that ends leaves its loop waiting for its consumer or asleep. -/
theorem finish_shape (task : Task) (now : Nat) (kind : AttemptKind)
    (error : Option ConfirmerError) :
    (∃ update deadline, task.finish now kind error =
        (task.place kind (.sending update error.isSome deadline),
          [.ended kind error, .offered update])) ∨
      task.finish now kind error =
        (task.afterReport now kind error.isSome, [.ended kind error]) := by
  by_cases reporting : task.phase = .running ∧ task.stop = false
  · exact .inl ⟨_, _, by rw [finish, if_pos reporting]⟩
  · exact .inr (by rw [finish, if_neg reporting])

/-- After an attempt has ended there is none before its loop has slept. -/
theorem defers_finish (task : Task) (now : Nat) (kind : AttemptKind)
    (error : Option ConfirmerError) :
    (task.finish now kind error).1.Defers now kind
      (now + task.setup.respite kind error.isSome) := by
  obtain ⟨update, deadline, ends⟩ | ends := finish_shape task now kind error
  · rw [ends]
    exact defers_place.mpr fun earliest next => Nat.le_of_eq (Option.some.inj next)
  · rw [ends]
    exact defers_sleep task.unlock now kind error.isSome

theorem mem_finish {other : AttemptKind} {error cause : Option ConfirmerError} :
    .ended other cause ∈ (task.finish now kind error).2 ↔ other = kind ∧ cause = error := by
  obtain ⟨update, deadline, ends⟩ | ends := finish_shape task now kind error
  · simp [ends]
  · simp [ends]

theorem not_mem_finish {other : AttemptKind} {error : Option ConfirmerError} :
    .brokeOff other ∉ (task.finish now kind error).2 := by
  obtain ⟨update, deadline, ends⟩ | ends := finish_shape task now kind error
  · simp [ends]
  · simp [ends]

/-- What is deferred to some time is deferred to any time before. -/
theorem Defers.mono {less : Nat} (defers : task.Defers now kind time) (order : less ≤ time) :
    task.Defers now kind less :=
  fun earliest next => Nat.le_trans order (defers earliest next)

/-- When a node call of an attempt returns, no attempt of its kind begins before then, and if the
attempt has failed none before its loop has paused. -/
theorem Answered.defers {stage : Stage} {verdict : Verdict}
    (answered : Answered task now kind stage verdict turn) :
    turn.1.Defers now kind now ∧
      ∀ error, .ended kind (some error) ∈ turn.2 →
        turn.1.Defers now kind (now + task.setup.respite kind true) := by
  have goes_on (other : Task) (stage : Stage) :
      (other.place kind (.attempting stage)).Defers now kind now :=
    defers_place.mpr fun earliest next => Nat.le_of_eq (Option.some.inj next)
  have fails (other : Task) (error : ConfirmerError) (setup : other.setup = task.setup) :
      (other.finish now kind (some error)).1.Defers now kind now ∧
        ∀ cause, .ended kind (some cause) ∈ (other.finish now kind (some error)).2 →
          (other.finish now kind (some error)).1.Defers now kind
            (now + task.setup.respite kind true) := by
    have defers := defers_finish other now kind (some error)
    rw [setup] at defers
    exact ⟨defers.mono (Nat.le_add_right ..), fun _ _ => defers⟩
  cases answered with
  | failed => exact fails _ _ rfl
  | malformed => exact fails _ _ rfl
  | foreign => exact fails _ _ rfl
  | prepared | selected | attached => exact ⟨goes_on _ _, by simp⟩
  | succeeded =>
    refine ⟨(defers_finish _ now kind none).mono (Nat.le_add_right ..), fun error ended => ?_⟩
    cases (mem_finish.mp ended).2
  | brokeOff => exact ⟨defers_done _ now kind now, by simp⟩

/-- No step lets an attempt come earlier. -/
theorem Move.defers (move : Move around task event turn)
    (defers : task.Defers around.now kind time) : turn.1.Defers around.now kind time := by
  by_cases other : event.party? ≠ some kind.party
  · exact defers.of_same move.setup (move.attempter_kept other)
  -- A step of the loop itself leads to a pause that is not over before, or to its end.
  · have same : event.party? = some kind.party := not_not.mp other
    have asleep (sleeper : Task) (failed : Bool) (setup : sleeper.setup = task.setup)
        (order : time ≤ around.now + task.setup.respite kind failed) :
        (sleeper.sleep around.now kind (if failed then .backoff else .tick)).Defers around.now kind
          time :=
      (defers_sleep sleeper around.now kind failed).mono (setup ▸ order)
    cases move with
    | entered stands =>
      obtain rfl := AttemptKind.party_inj.mp (Option.some.inj same)
      exact asleep task false rfl (defers _ (by rw [stands]; rfl))
    | woke stands due =>
      obtain rfl := AttemptKind.party_inj.mp (Option.some.inj same)
      have before := defers _ (by rw [stands]; rfl)
      refine defers_place.mpr fun earliest next => ?_
      obtain rfl := Option.some.inj next
      exact Nat.le_trans before due
    | recovered stands due =>
      obtain rfl := AttemptKind.party_inj.mp (Option.some.inj same)
      have before := defers _ (by rw [stands]; rfl)
      exact asleep task false rfl (Nat.le_trans before (Nat.add_le_add_right due _))
    | haltedAsleep | retired =>
      obtain rfl := AttemptKind.party_inj.mp (Option.some.inj same)
      exact defers_done _ _ _ _
    | @began moved stands =>
      obtain rfl := AttemptKind.party_inj.mp (Option.some.inj same)
      have before := defers _ (by rw [stands]; rfl)
      obtain ⟨stage, role, request, begun⟩ := begin_shape task moved
      rw [begun]
      refine defers_place.mpr fun earliest next => ?_
      obtain rfl := Option.some.inj next
      exact before
    | deferred stands =>
      obtain rfl := AttemptKind.party_inj.mp (Option.some.inj same)
      have before := defers _ (by rw [stands]; rfl)
      exact asleep task.unlock false rfl (Nat.le_add_right_of_le before)
    | answered stands answered =>
      obtain rfl := AttemptKind.party_inj.mp (Option.some.inj same)
      have before := defers _ (by rw [stands]; rfl)
      exact answered.defers.1.mono before
    | sent stands | timedOut stands | haltedSending stands | refused stands =>
      obtain rfl := AttemptKind.party_inj.mp (Option.some.inj same)
      exact asleep _ _ rfl (defers _ (by rw [stands]; rfl))
    | _ => cases kind <;> cases same

/-- After an attempt has failed there is none of its kind before its loop has paused. -/
theorem Move.defers_failed (move : Move around task event turn) {error : ConfirmerError}
    (failed : .ended kind (some error) ∈ turn.2) :
    turn.1.Defers around.now kind (around.now + task.setup.respite kind true) := by
  obtain ⟨-, -, -, -, -, rfl⟩ | ⟨stage, verdict, -, -, answered⟩ := move.attempt_inv failed rfl
  · obtain ⟨stage, role, request, begun⟩ := begin_shape task kind
    simp [begun] at failed
  · exact answered.defers.2 error failed

/-- An attempt begins no earlier than its loop can begin one. -/
theorem Move.began_after (move : Move around task event turn) (began : .began kind ∈ turn.2)
    (defers : task.Defers around.now kind time) : time ≤ around.now := by
  obtain ⟨-, stands, -⟩ := move.began_inv began
  exact defers _ (by rw [stands]; rfl)

/-! ## When an attempt is due -/

@[simp] theorem dueTime_place (task : Task) (other : AttemptKind) (position : Attempter) :
    (task.place other position).dueTime kind = task.dueTime kind := by
  cases other <;> cases kind <;> rfl

@[simp] theorem dueTime_afterReport (task : Task) (now : Nat) (other : AttemptKind)
    (failed : Bool) : (task.afterReport now other failed).dueTime kind = task.dueTime kind :=
  (dueTime_place task.unlock other _).trans (by cases kind <;> rfl)

@[simp] theorem dueTime_finish (task : Task) (now : Nat) (other : AttemptKind)
    (error : Option ConfirmerError) :
    (task.finish now other error).1.dueTime kind = task.dueTime kind := by
  obtain ⟨update, deadline, ends⟩ | ends := finish_shape task now other error
  · rw [ends, dueTime_place]
  · rw [ends, dueTime_afterReport]

@[simp] theorem dueTime_restChecker (task : Task) (around : Surroundings) :
    (task.restChecker around).1.dueTime kind = task.dueTime kind := by
  unfold restChecker
  split <;> cases kind <;> rfl

theorem dueTime_schedule (task : Task) (now : Nat) (kind : AttemptKind) (next : Nat) :
    (task.schedule now kind next).dueTime kind = next := by
  cases kind <;> rfl

/-- An attempt has succeeded. -/
def Succeeds (kind : AttemptKind) (effects : List Effect) : Prop :=
  .ended kind none ∈ effects ∨ .brokeOff kind ∈ effects

/-- When a node call of an attempt returns, the time of its kind is set if it has succeeded and
another exists, and promotions are due at once if it was a reattachment. -/
theorem Answered.setsDue {stage : Stage} {verdict : Verdict} {other : AttemptKind}
    (answered : Answered task now other stage verdict turn) (kind : AttemptKind) :
    turn.1.dueTime kind = task.dueTime kind ∨
      (other = kind ∧ turn.1.dueTime kind = now + task.period kind) ∨
      kind = .promotion ∧ other = .reattachment ∧ Succeeds .reattachment turn.2 := by
  have counted (task : Task) (attach select : Nat) :
      Task.dueTime { task with attachTime := attach, tipSelectionTime := select } kind =
        task.dueTime kind := by
    cases kind <;> rfl
  cases answered with
  | failed => exact .inl (dueTime_finish ..)
  | prepared => exact .inl (dueTime_place ..)
  | selected | attached => exact .inl ((dueTime_place ..).trans (counted ..))
  | malformed | foreign => exact .inl ((dueTime_finish ..).trans (counted ..))
  | @succeeded attached tail endpoint elapsed next exists_next =>
    rw [dueTime_finish]
    by_cases own : other = kind
    · subst own
      exact .inr (.inl ⟨rfl, (dueTime_schedule ..).trans (Clock.eq_of_moment? exists_next)⟩)
    · cases other with
      | promotion =>
        cases kind with
        | promotion => exact absurd rfl own
        | reattachment => exact .inl rfl
      | reattachment =>
        cases kind with
        | promotion => exact .inr (.inr ⟨rfl, rfl, .inl (mem_finish.mpr ⟨rfl, rfl⟩)⟩)
        | reattachment => exact absurd rfl own
  | brokeOff =>
    refine .inl ((dueTime_place ..).trans ?_)
    cases other <;> cases kind <;> rfl

@[simp] theorem dueTime_noteVerdict (task : Task) (tail : Hash) (promotable : Bool) :
    (task.noteVerdict tail promotable).dueTime kind = task.dueTime kind := by
  unfold noteVerdict
  split <;> cases kind <;> rfl

/-- The time of a kind is set by a success of its own, or by a reattachment. -/
theorem Move.setsDue (move : Move around task event turn) (kind : AttemptKind) :
    turn.1.dueTime kind = task.dueTime kind ∨
      turn.1.dueTime kind = around.now + task.period kind ∨
      kind = .promotion ∧ Succeeds .reattachment turn.2 := by
  cases move with
  | @answered other stage verdict turn stands answered =>
    obtain same | ⟨-, set⟩ | ⟨promotes, -, succeeds⟩ := answered.setsDue kind
    · exact .inl same
    · exact .inr (.inl set)
    · exact .inr (.inr ⟨promotes, succeeds⟩)
  | @began other =>
    obtain ⟨stage, role, request, begun⟩ := begin_shape task other
    rw [begun]
    exact .inl (dueTime_place ..)
  | entered | recovered | haltedAsleep => exact .inl (dueTime_place ..)
  | woke | retired | deferred =>
    exact .inl ((dueTime_place ..).trans (by cases kind <;> rfl))
  | sent => exact .inl ((dueTime_afterReport ..).trans (by cases kind <;> rfl))
  | timedOut | haltedSending | refused => exact .inl (dueTime_afterReport ..)
  | @judged tail promotable =>
    have noted := @dueTime_noteVerdict kind task tail promotable
    exact .inl ((dueTime_restChecker ..).trans ((by cases kind <;> rfl : _ = _).trans noted))
  | checkFailed => exact .inl (dueTime_restChecker ..)
  | _ => exact .inl (by cases kind <;> rfl)

/-- A success makes the next attempt of its kind wait for a whole period, or is the last. -/
theorem Move.abides_succeeded (move : Move around task event turn)
    (succeeds : Succeeds kind turn.2) : turn.1.Abides kind around.now := by
  have same : turn.1.period kind = task.period kind := by
    cases kind <;> simp only [period, move.setup]
  obtain ⟨effect, member, success⟩ : ∃ effect ∈ turn.2,
      effect = .ended kind none ∨ effect = .brokeOff kind := by
    obtain ended | broke := succeeds
    · exact ⟨_, ended, .inl rfl⟩
    · exact ⟨_, broke, .inr rfl⟩
  have belongs : effect.attempt? = some kind := by
    rcases success with rfl | rfl <;> rfl
  obtain ⟨-, -, -, -, -, rfl⟩ | ⟨stage, verdict, -, -, answered⟩ := move.attempt_inv member belongs
  · obtain ⟨stage, role, request, begun⟩ := begin_shape task kind
    rcases success with rfl | rfl <;> simp [begun] at member
  · cases answered with
    | failed | malformed | foreign =>
      rcases success with rfl | rfl
      · cases (mem_finish.mp member).2
      · exact absurd member not_mem_finish
    | prepared | selected | attached => rcases success with rfl | rfl <;> simp at member
    | succeeded exists_next =>
      refine .inr (Nat.le_of_eq ?_)
      rw [same, dueTime_finish, dueTime_schedule, Clock.eq_of_moment? exists_next]
    | brokeOff => exact .inl (frame_place ..).2.2.2.2.2

/-- A loop that has ended makes no attempt any more. -/
theorem Move.done (move : Move around task event turn) (ended : task.attempter kind = .done) :
    turn.1.attempter kind = .done := by
  by_cases other : event.party? ≠ some kind.party
  · rw [move.attempter_kept other, ended]
  · have same : event.party? = some kind.party := not_not.mp other
    cases move with
    | entered stands | woke stands | recovered stands | haltedAsleep stands | retired stands
    | began stands | deferred stands | answered stands | sent stands | timedOut stands
    | haltedSending stands | refused stands =>
      obtain rfl := AttemptKind.party_inj.mp (Option.some.inj same)
      cases stands.symm.trans ended
    | _ => cases kind <;> cases same

/-- A time that is waited for goes on being waited for, but for promotions after a reattachment. -/
theorem Move.abides (move : Move around task event turn) (order : time ≤ around.now)
    (alone : kind = .promotion → ¬Succeeds .reattachment turn.2) (abides : task.Abides kind time) :
    turn.1.Abides kind time := by
  have same : turn.1.period kind = task.period kind := by
    cases kind <;> simp only [period, move.setup]
  obtain ended | waits := abides
  · exact .inl (move.done ended)
  · refine .inr ?_
    rw [same]
    obtain kept | set | ⟨promotes, succeeds⟩ := move.setsDue kind
    · rw [kept]
      exact waits
    · rw [set]
      exact Nat.add_le_add_right order _
    · exact absurd succeeds (alone promotes)

/-- An attempt begins when it is due: a promotion only while nodes take the tail for one that can be
promoted, a reattachment otherwise, or once its time has passed. -/
theorem Move.began_due (move : Move around task event turn) (began : .began kind ∈ turn.2) :
    (kind = .promotion → task.notPromotable = false) ∧
      ∀ time, task.Abides kind time →
        match kind with
        | .promotion => time + task.period .promotion ≤ around.now
        | .reattachment => task.notPromotable = true ∨
            time + task.period .reattachment < around.now := by
  obtain ⟨-, stands, -, -, due, -⟩ := move.began_inv began
  have waits {time : Nat} (abides : task.Abides kind time) :
      time + task.period kind ≤ task.dueTime kind :=
    abides.resolve_left (by simp [stands])
  cases kind with
  | promotion =>
    simp only [isDue, Bool.and_eq_true, Bool.not_eq_true', decide_eq_true_eq] at due
    exact ⟨fun _ => due.1, fun time abides => Nat.le_trans (waits abides) due.2⟩
  | reattachment =>
    simp only [isDue, Bool.or_eq_true, decide_eq_true_eq] at due
    exact ⟨nofun, fun time abides => due.imp_right (Nat.lt_of_le_of_lt (waits abides))⟩

end Task

end Inclusion
