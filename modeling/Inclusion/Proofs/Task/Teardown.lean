import Inclusion.Proofs.Task.Cancellation
import Inclusion.Proofs.Task.Ending
import Inclusion.Proofs.Task.Dialogue
import Inclusion.Proofs.Task.Reports

/-!
# How a task comes to its end

Once the supervisor has noticed the confirmation or the cancellation, every step that a task takes
by itself brings it nearer to its end. How far each loop still has to go is told by where it stands:
a loop that makes attempts has a number of node calls before it and a report, may sleep twice, and
comes to the lock for the last time behind the supervisor. A loop that waits for the lock before
the supervisor may begin one attempt more.

When such a task is settled it waits for a node or for its consumer, and for nothing else.
-/

namespace Inclusion

/-- Whether the supervisor is on its way to the end. -/
def Supervisor.isEnding : Supervisor → Bool
  | starting | watching _ _ => false
  | queuedToConfirm | announcing _ _ | queuedToCancel | joining | done => true

/-- How many steps the supervisor still has to take at most. -/
def Supervisor.distance : Supervisor → Nat
  | starting | watching _ _ => 4
  | queuedToConfirm => 3
  | announcing _ _ | queuedToCancel => 2
  | joining => 1
  | done => 0

/-- How many steps a loop that makes attempts still has to take at most, if it waits for the lock
before the supervisor or not. -/
def Attempter.distance (precedes : Bool) : Attempter → Nat
  | done => 0
  | queued => if precedes then 9 else 1
  | sleeping .tick _ => 2
  | starting | sleeping .backoff _ => 3
  | sending _ _ _ => 4
  | attempting (.broadcasting _ _) => 5
  | attempting .attaching => 6
  | attempting (.selecting _) => 7
  | attempting .preparing => 8

/-- How many steps the checking loop still has to take at most. -/
def Checker.distance (precedes : Bool) : Checker → Nat
  | done => 0
  | queued => if precedes then 5 else 1
  | starting | sleeping _ => 2
  | reporting _ _ => 3
  | asking _ => 4

theorem Attempter.distance_mono {position : Attempter} {before after : Bool}
    (comes : after = true → before = true) :
    position.distance after ≤ position.distance before := by
  cases position with
  | queued => cases after <;> cases before <;> simp_all [Attempter.distance]
  | attempting stage => cases stage <;> exact Nat.le_refl _
  | sleeping pause => cases pause <;> exact Nat.le_refl _
  | _ => exact Nat.le_refl _

theorem Checker.distance_mono {position : Checker} {before after : Bool}
    (comes : after = true → before = true) :
    position.distance after ≤ position.distance before := by
  cases position with
  | queued => cases after <;> cases before <;> simp_all [Checker.distance]
  | _ => exact Nat.le_refl _

/-- Only a loop that has ended has nothing to do. -/
theorem Attempter.distance_pos {position : Attempter} (precedes : Bool) (works : position ≠ .done) :
    0 < position.distance precedes := by
  cases position with
  | queued => cases precedes <;> simp [distance]
  | attempting stage => cases stage <;> simp [distance]
  | sleeping pause => cases pause <;> simp [distance]
  | starting | sending => simp [distance]
  | done => exact absurd rfl works

theorem Checker.distance_pos {position : Checker} (precedes : Bool) (works : position ≠ .done) :
    0 < position.distance precedes := by
  cases position with
  | queued => cases precedes <;> simp [distance]
  | starting | asking | reporting | sleeping => simp [distance]
  | done => exact absurd rfl works

/-- A report or a pause comes behind all node calls. -/
theorem Attempter.distance_attempting (precedes : Bool) (stage : Stage) :
    4 < (attempting stage).distance precedes := by
  cases stage <;> simp [distance]

namespace Task

variable {around : Surroundings} {task : Task} {event : Event} {turn : Turn} {party : Party}

/-- How many steps a loop still has to take at most in a task on its way to the end. -/
def distanceOf (task : Task) : Party → Nat
  | .checker => task.checker.distance (task.precedes .checker)
  | .promoter => task.promoter.distance (task.precedes .promoter)
  | .reattacher => task.reattacher.distance (task.precedes .reattacher)
  | .supervisor => task.supervisor.distance

/-- How many steps a task on its way to the end still has to take at most. -/
def distance (task : Task) : Nat :=
  task.distanceOf .checker + task.distanceOf .promoter + task.distanceOf .reattacher +
    task.distanceOf .supervisor

theorem distanceOf_checker (task : Task) :
    task.distanceOf .checker = task.checker.distance (task.precedes .checker) :=
  rfl

theorem distanceOf_party (task : Task) (kind : AttemptKind) :
    task.distanceOf kind.party = (task.attempter kind).distance (task.precedes kind.party) := by
  cases kind <;> rfl

/-- A task on its way to the end has twenty-six steps to take at most. -/
theorem distance_le (ending : task.supervisor.isEnding = true) : task.distance ≤ 26 := by
  have attempter : ∀ kind, task.distanceOf (AttemptKind.party kind) ≤ 9 := by
    intro kind
    rw [distanceOf_party]
    unfold Attempter.distance
    split <;> first | omega | split <;> omega
  have checker : task.distanceOf .checker ≤ 5 := by
    show task.checker.distance _ ≤ 5
    unfold Checker.distance
    split <;> first | omega | split <;> omega
  have supervisor : task.distanceOf .supervisor ≤ 3 := by
    show task.supervisor.distance ≤ 3
    cases stands : task.supervisor <;> simp_all [Supervisor.isEnding, Supervisor.distance]
  have promoter := attempter .promotion
  have reattacher := attempter .reattachment
  unfold distance
  simp only [AttemptKind.party] at promoter reattacher
  omega

/-- A supervisor on its way to the end stays on it. -/
theorem Course.Step.isEnding {course next : Course} (step : Course.Step event course next)
    (ending : course.supervisor.isEnding = true) : next.supervisor.isEnding = true := by
  cases step with
  | registered stands => rcases stands with rfl | ⟨_, rfl⟩ <;> cases ending
  | signalled => cases ending
  | kept | cancelRequested => exact ending
  | confirmSeen | cancelSeen | confirmed | cancelled | announced | joined => rfl

/-- On its way to the end, the supervisor has waited for the lock if it waits for it. -/
theorem Course.Step.waited {course next : Course} (step : Course.Step event course next)
    (ending : course.supervisor.isEnding = true) (waits : next.supervisor.standing = .waiting) :
    course.supervisor.standing = .waiting := by
  cases step with
  | registered stands => rcases stands with rfl | ⟨_, rfl⟩ <;> cases ending
  | signalled | confirmSeen | cancelSeen => cases ending
  | kept | cancelRequested => exact waits
  | confirmed | cancelled | announced | joined => cases waits

/-- Nobody comes before the supervisor anew. -/
theorem Move.precedes_of_ending (sound : task.Sound) (move : Move around task event turn)
    (ending : task.supervisor.isEnding = true) (comes : turn.1.precedes party = true) :
    task.precedes party = true := by
  have waits : turn.1.course.supervisor.standing = .waiting := (of_decide_eq_true comes).1
  have waited : task.course.supervisor.standing = .waiting := move.course.waited ending waits
  exact move.precedes sound waited comes

/-- The loops that a step does not concern have no longer to go than before. -/
theorem Move.distanceOf_le (sound : task.Sound) (move : Move around task event turn)
    (ending : task.supervisor.isEnding = true) (other : event.party? ≠ some party)
    (working : party ≠ .supervisor) : turn.1.distanceOf party ≤ task.distanceOf party := by
  have comes : turn.1.precedes party = true → task.precedes party = true :=
    move.precedes_of_ending sound ending
  have attempter : ∀ kind : AttemptKind, kind.party = party →
      turn.1.distanceOf party ≤ task.distanceOf party := by
    rintro kind rfl
    rw [distanceOf_party, distanceOf_party, move.attempter_kept other]
    exact Attempter.distance_mono comes
  cases party with
  | checker =>
    rw [distanceOf_checker, distanceOf_checker, move.checker_kept other]
    exact Checker.distance_mono comes
  | promoter => exact attempter .promotion rfl
  | reattacher => exact attempter .reattachment rfl
  | supervisor => exact absurd rfl working

/-- A loop that has come to the lock of a running task on its way to the end has come before the
supervisor. -/
theorem precedes_of_held (sound : task.Sound) (ending : task.supervisor.isEnding = true)
    (running : task.phase = .running) (held : task.lock.holder = some party)
    (waits : task.standing party = .waiting) (working : party ≠ .supervisor) :
    task.precedes party = true := by
  have waiting : task.standing .supervisor = .waiting := by
    have consistent := sound.course
    unfold Course.Consistent at consistent
    show task.supervisor.standing = .waiting
    cases stands : task.supervisor <;>
      simp_all [course, Supervisor.isEnding, Supervisor.standing]
  refine decide_eq_true ⟨waiting, waits, ?_⟩
  rw [Lock.before_release held working]
  exact List.mem_cons_self

/-- Whether an event comes to a task from outside, but for the return of its node calls. -/
def Event.isOutside : Event → Bool
  | signalled _ _ | cancelRequested | received | streamDropped => true
  | _ => false

/-- An attempt goes on to a later stage, or to its report. -/
theorem Answered.distance_lt {now : Nat} {kind : AttemptKind} {stage : Stage} {verdict : Verdict}
    (answered : Answered task now kind stage verdict turn) (precedes before : Bool) :
    (turn.1.attempter kind).distance precedes < (Attempter.attempting stage).distance before := by
  have finished : ∀ (other : Task) (error : Option ConfirmerError),
      ((other.finish now kind error).1.attempter kind).distance precedes ≤ 4 := by
    intro other error
    by_cases reporting : other.phase = .running ∧ other.stop = false
    · simp [finish, reporting, Attempter.distance]
    · simp only [finish, if_neg reporting]
      cases error <;> simp [afterReport, sleep, Attempter.distance]
  have behind := Attempter.distance_attempting before stage
  cases answered with
  | failed | malformed | foreign | succeeded => exact Nat.lt_of_le_of_lt (finished _ _) behind
  | prepared | selected | attached | brokeOff => simp [Attempter.distance]

/-- The loop that a step concerns is nearer to its end afterwards. -/
theorem Move.distanceOf_lt (sound : task.Sound) (move : Move around task event turn)
    (ending : task.supervisor.isEnding = true) (own : event.party? = some party)
    (working : party ≠ .supervisor) : turn.1.distanceOf party < task.distanceOf party := by
  have comes : turn.1.precedes party = true → task.precedes party = true :=
    move.precedes_of_ending sound ending
  -- A loop that asks for the lock comes behind the supervisor.
  have behind : task.standing party = .apart → turn.1.precedes party = false := by
    intro away
    refine eq_false_of_ne_true fun precedes => ?_
    have waits := (of_decide_eq_true (comes precedes)).2.1
    exact nomatch away.symm.trans waits
  -- A loop that gets the lock of a running task has come before the supervisor.
  have ahead : task.phase = .running → task.lock.holder = some party →
      task.standing party = .waiting → task.precedes party = true :=
    fun running held waits => precedes_of_held sound ending running held waits working
  cases move with
  | @entered kind stands | @recovered kind _ stands =>
    obtain rfl : kind.party = party := Option.some.inj own
    rw [distanceOf_party, distanceOf_party, stands]
    simp [sleep, Attempter.distance]
  | @woke kind wake stands =>
    obtain rfl : kind.party = party := Option.some.inj own
    have last := behind ((standing_party task kind).trans (congrArg Attempter.standing stands))
    rw [distanceOf_party, distanceOf_party, stands, last]
    simp [Attempter.distance]
  | @haltedAsleep kind _ _ stands | @retired kind stands =>
    obtain rfl : kind.party = party := Option.some.inj own
    rw [distanceOf_party, distanceOf_party]
    simpa [Attempter.distance] using Attempter.distance_pos _ (by simp [stands])
  | @began kind stands held running due =>
    obtain rfl : kind.party = party := Option.some.inj own
    have first := ahead running held ((standing_party task kind).trans
      (congrArg Attempter.standing stands))
    rw [distanceOf_party, distanceOf_party, stands, first]
    cases kind <;> simp [begin, Attempter.distance]
  | @deferred kind stands held running early =>
    obtain rfl : kind.party = party := Option.some.inj own
    have first := ahead running held ((standing_party task kind).trans
      (congrArg Attempter.standing stands))
    rw [distanceOf_party, distanceOf_party, stands, first]
    simp [sleep, Attempter.distance]
  | @answered kind stage verdict turn stands answered =>
    obtain rfl : kind.party = party := Option.some.inj own
    rw [distanceOf_party, distanceOf_party, stands]
    exact answered.distance_lt _ _
  | @sent kind update failed deadline stands | @timedOut kind update failed deadline stands
  | @haltedSending kind update failed deadline stands
  | @refused kind update failed deadline stands =>
    obtain rfl : kind.party = party := Option.some.inj own
    rw [distanceOf_party, distanceOf_party, stands]
    cases failed <;> simp [afterReport, sleep, Attempter.distance]
  | checkerEntered stands | checkerWoke stands =>
    obtain rfl : .checker = party := Option.some.inj own
    have last := behind (congrArg Checker.standing stands)
    rw [distanceOf_checker, distanceOf_checker, stands, last]
    simp [Checker.distance]
  | checkerHalted stands | checkerRetired stands =>
    obtain rfl : .checker = party := Option.some.inj own
    exact Checker.distance_pos _ (by simp [stands])
  | asked stands held running =>
    obtain rfl : .checker = party := Option.some.inj own
    have first := ahead running held (congrArg Checker.standing stands)
    rw [distanceOf_checker, distanceOf_checker, stands, first]
    simp [Checker.distance]
  | @judged tail promotable stands =>
    obtain rfl : .checker = party := Option.some.inj own
    rw [distanceOf_checker, distanceOf_checker, stands]
    obtain ⟨wake, sleeps⟩ | ended :=
      restChecker_position (task.noteVerdict tail promotable).unlock around
    · simp [sleeps, Checker.distance]
    · simp [ended, Checker.distance]
  | checkFailed stands =>
    obtain rfl : .checker = party := Option.some.inj own
    rw [distanceOf_checker, distanceOf_checker, stands]
    obtain ⟨wake, sleeps⟩ | ended := restChecker_position task around
    · simp [sleeps, Checker.distance]
    · simp [ended, Checker.distance]
  | checkAnswered stands =>
    obtain rfl : .checker = party := Option.some.inj own
    rw [distanceOf_checker, distanceOf_checker, stands]
    simp [Checker.distance]
  | registered | confirmed | cancelled | announced | announceTimedOut | announceRefused =>
    exact absurd (Option.some.inj own).symm working
  | _ => cases own

/-- A step of the supervisor itself brings it nearer to its end. -/
theorem Move.supervisor_lt (move : Move around task event turn)
    (ending : task.supervisor.isEnding = true) (inside : event.isOutside = false)
    (none_else : ∀ party ≠ Party.supervisor, event.party? ≠ some party) :
    turn.1.supervisor.distance < task.supervisor.distance := by
  cases move with
  | registered stands | dropSeen stands | confirmSeen stands | cancelSeen stands =>
    simp [stands, Supervisor.isEnding] at ending
  | signalled | cancelRequested | received | streamDropped => cases inside
  | confirmed stands | cancelled stands | announced stands | announceTimedOut stands
  | announceCancelled stands | announceRefused stands | joined stands =>
    rw [stands]
    simp [confirm, beginJoin, Supervisor.distance]
  | @entered kind | @woke kind | @recovered kind | @haltedAsleep kind | @retired kind | @began kind
  | @deferred kind | @answered kind | @sent kind | @timedOut kind | @haltedSending kind
  | @refused kind => exact absurd rfl (none_else kind.party kind.party_ne_supervisor)
  | _ => exact absurd rfl (none_else .checker (by decide))

/-- An event from outside moves no loop. -/
theorem Move.supervisor_le (move : Move around task event turn)
    (ending : task.supervisor.isEnding = true) (outside : event.isOutside = true) :
    turn.1.supervisor.distance ≤ task.supervisor.distance := by
  cases move with
  | cancelRequested | received | streamDropped => exact Nat.le_refl _
  | signalled stands => simp [stands, Supervisor.isEnding] at ending
  | _ => cases outside

/-- What comes from outside is for no loop. -/
theorem Event.inside {event : Event} (own : event.party? = some party) :
    event.isOutside = false := by
  cases event <;> first | rfl | cases own

/-- What is for a working loop is not for the supervisor. -/
theorem Event.unending {event : Event} (own : event.party? = some party)
    (working : party ≠ .supervisor) : event.isForEnd = false := by
  cases event <;> simp_all [Event.party?, isForEnd]

/-- A task on its way to the end comes nearer to it with every step, but for what comes from
outside, which does not set it back. -/
theorem Move.distance (sound : task.Sound) (move : Move around task event turn)
    (ending : task.supervisor.isEnding = true) :
    turn.1.distance + (!event.isOutside).toNat ≤ task.distance := by
  have others : ∀ party ≠ .supervisor, event.party? ≠ some party →
      turn.1.distanceOf party ≤ task.distanceOf party :=
    fun party working other => move.distanceOf_le sound ending other working
  by_cases own : ∃ party ≠ Party.supervisor, event.party? = some party
  · obtain ⟨party, working, own⟩ := own
    have supervisor : turn.1.distanceOf .supervisor = task.distanceOf .supervisor :=
      congrArg (fun course => course.supervisor.distance)
        (move.course_kept (Event.unending own working))
    have nearer := move.distanceOf_lt sound ending own working
    have away : ∀ other ≠ Party.supervisor, other ≠ party →
        turn.1.distanceOf other ≤ task.distanceOf other := fun other works different =>
      others other works fun same => different (Option.some.inj (same.symm.trans own))
    rw [Event.inside own]
    unfold Task.distance
    cases party with
    | checker =>
      have promoter := away .promoter nofun nofun
      have reattacher := away .reattacher nofun nofun
      simp only [Bool.not_false, Bool.toNat_true]
      omega
    | promoter =>
      have checker := away .checker nofun nofun
      have reattacher := away .reattacher nofun nofun
      simp only [Bool.not_false, Bool.toNat_true]
      omega
    | reattacher =>
      have checker := away .checker nofun nofun
      have promoter := away .promoter nofun nofun
      simp only [Bool.not_false, Bool.toNat_true]
      omega
    | supervisor => exact absurd rfl working
  · have none_else : ∀ party ≠ Party.supervisor, event.party? ≠ some party :=
      fun party working same => own ⟨party, working, same⟩
    have checker := others .checker nofun (none_else _ nofun)
    have promoter := others .promoter nofun (none_else _ nofun)
    have reattacher := others .reattacher nofun (none_else _ nofun)
    have supervisor : turn.1.distanceOf .supervisor + (!event.isOutside).toNat ≤
        task.distanceOf .supervisor := by
      cases outside : event.isOutside with
      | false => exact move.supervisor_lt ending outside none_else
      | true => exact move.supervisor_le ending outside
    unfold Task.distance
    omega

/-- Only a task that is over has nothing to do. -/
theorem distance_pos (unfinished : task.isOver = false) : 0 < task.distance := by
  have supervisor : 0 < task.supervisor.distance := by
    cases stands : task.supervisor with
    | done => simp [isOver, stands] at unfinished
    | starting | watching | queuedToConfirm | announcing | queuedToCancel | joining =>
      simp [Supervisor.distance]
  exact Nat.lt_of_lt_of_le supervisor (Nat.le_add_left ..)

/-- So of the steps that do not come from outside it takes no more than it has before it. -/
theorem Run.steps_le {start final : Task} {entries : List Entry} (run : Run start entries final)
    (sound : start.Sound) (ending : start.supervisor.isEnding = true) :
    (entries.countP fun entry => !entry.event.isOutside) + final.distance ≤ start.distance := by
  induction run with
  | refl => simp
  | @step entries task around event next effects prior move inductionHypothesis =>
    have still : task.supervisor.isEnding = true :=
      prior.preserves (fun move ending => move.course.isEnding ending) ending
    have step := move.distance (prior.sound sound) still
    rw [List.countP_append, List.countP_singleton]
    cases outside : event.isOutside <;> simp only [outside] at step ⊢ <;> simp at step ⊢ <;> omega

/-! ## What a settled task waits for -/

/-- Whether the supervisor has been told of the confirmation, or the task is cancelled. -/
def isCalledOff (task : Task) : Bool :=
  task.supervisor.isTold || task.cancel

/-- That is not taken back. -/
theorem Move.isCalledOff (move : Move around task event turn)
    (called_off : task.isCalledOff = true) : turn.1.isCalledOff = true := by
  simp only [Task.isCalledOff, Bool.or_eq_true] at called_off ⊢
  by_cases cancelled : task.cancel = true
  · exact .inr (move.course.cancel cancelled)
  · exact .inl (move.course.told (eq_false_of_ne_true cancelled)
      (called_off.resolve_right cancelled))

/-- When a task is settled that is to end, the supervisor has noticed. -/
theorem isEnding_of_settled (settled : task.isSettled around = true)
    (called_off : task.isCalledOff = true) : task.supervisor.isEnding = true := by
  have rests := supervisor_rests settled
  cases stands : task.supervisor with
  | starting => simp [stands, Supervisor.Rests] at rests
  | watching ticket signal =>
    simp only [stands, Supervisor.Rests] at rests
    simp [isCalledOff, stands, Supervisor.isTold, rests.1, rests.2] at called_off
  | queuedToConfirm | announcing | queuedToCancel | joining | done => rfl

/-- Whoever works with the lock of a settled task waits for a node or for the consumer. -/
theorem waits_of_holding (settled : task.isSettled around = true)
    (holds : task.standing party = .holding) : task.isAsking party = true ∨
      ∃ update deadline, task.waiting? party = some (update, deadline) ∧
        around.now < deadline := by
  obtain ⟨kind, rfl, ⟨stage, stands⟩ | ⟨update, failed, deadline, stands⟩⟩ |
    ⟨rfl, update, deadline, stands⟩ := works_of_holding holds
  · refine .inl ?_
    rw [isAsking_party, isAttempting, stands]
  · refine .inr ⟨update, deadline, by rw [waiting_party, stands]; rfl, ?_⟩
    have rests := attempter_rests settled kind
    rw [stands] at rests
    exact rests.1
  · refine .inr ⟨update, deadline, by rw [waiting?, stands]; rfl, ?_⟩
    have rests := supervisor_rests settled
    rw [stands] at rests
    exact rests.1

/-- When a task is settled that is to end and has not ended, one of its loops waits for a node, or
for the consumer until its time is up. -/
theorem waits_of_settled (sound : task.Sound) (settled : task.isSettled around = true)
    (called_off : task.isCalledOff = true) (unfinished : task.isOver = false) :
    ∃ party, task.isAsking party = true ∨
      ∃ update deadline, task.waiting? party = some (update, deadline) ∧
        around.now < deadline := by
  have queued : task.standing .supervisor = .waiting → ∃ party, task.isAsking party = true ∨
      ∃ update deadline, task.waiting? party = some (update, deadline) ∧
        around.now < deadline := by
    intro waits
    obtain ⟨other, -, holds⟩ := exists_holding_of_settled sound settled waits
    exact ⟨other, waits_of_holding settled holds⟩
  have ending := isEnding_of_settled settled called_off
  cases stands : task.supervisor with
  | starting | watching => simp [stands, Supervisor.isEnding] at ending
  | queuedToConfirm | queuedToCancel => exact queued (congrArg Supervisor.standing stands)
  | announcing update deadline =>
    exact ⟨.supervisor, waits_of_holding settled (congrArg Supervisor.standing stands)⟩
  | joining =>
    obtain ⟨-, stopped⟩ := sound.course.ended (.inl stands)
    by_cases away : ∀ party, task.standing party = .apart
    · obtain ⟨tail, asks⟩ := asking_of_joining settled stopped stands away
      exact ⟨.checker, .inl (by rw [isAsking, asks])⟩
    · obtain ⟨party, involved⟩ := not_forall.mp away
      cases stood : task.standing party with
      | apart => exact absurd stood involved
      | holding => exact ⟨party, waits_of_holding settled stood⟩
      | waiting =>
        obtain ⟨other, -, holds⟩ := exists_holding_of_settled sound settled stood
        exact ⟨other, waits_of_holding settled holds⟩
  | done => simp [isOver, stands] at unfinished

/-- Nobody is asleep in a settled task whose loops have been told to end. -/
theorem awake_of_settled (settled : task.isSettled around = true) (stopped : task.stop = true)
    (wake : Nat) : task.checker ≠ .sleeping wake ∧
      ∀ kind pause, task.attempter kind ≠ .sleeping pause wake := by
  constructor
  · intro sleeps
    have rests := checker_rests settled
    simp [sleeps, Checker.Rests, stopped] at rests
  · intro kind pause sleeps
    have rests := attempter_rests settled kind
    simp [sleeps, Attempter.Rests, stopped] at rests

/-! ## How long it waits for its consumer -/

/-- A loop that comes to wait with the report of an attempt waits no longer than the settings say.
-/
theorem Answered.waiting_le {now : Nat} {kind : AttemptKind} {stage : Stage} {verdict : Verdict}
    (answered : Answered task now kind stage verdict turn) {update : Update} {deadline : Nat}
    (waits : (turn.1.attempter kind).waiting? = some (update, deadline)) :
    deadline ≤ now + task.setup.sendTimeout := by
  have finished : ∀ (other : Task) (error : Option ConfirmerError), other.setup = task.setup →
      ((other.finish now kind error).1.attempter kind).waiting? = some (update, deadline) →
        deadline ≤ now + task.setup.sendTimeout := by
    intro other error setup waits
    by_cases reporting : other.phase = .running ∧ other.stop = false
    · simp only [finish, if_pos reporting, frame_place, Attempter.waiting?, Option.some.injEq,
        Prod.mk.injEq] at waits
      exact Nat.le_of_eq (setup ▸ waits.2.symm)
    · simp only [finish, if_neg reporting, afterReport, sleep, frame_place] at waits
      cases waits
  cases answered with
  | failed => exact finished task _ rfl waits
  | @malformed _ _ _ elapsed | @foreign _ _ _ elapsed =>
    exact finished { task with attachTime := task.attachTime + Clock.toMilliseconds elapsed } _ rfl
      waits
  | succeeded =>
    exact finished _ _ ((kin_credit kind _ _).schedule now kind _).setup waits
  | prepared | selected | attached | brokeOff =>
    simp only [frame_place] at waits
    cases waits

/-- An update that waits after a step has waited before, or begins to wait now, which is not because
of anything from outside. -/
theorem Move.waiting_le (move : Move around task event turn) {update : Update} {deadline : Nat}
    (waits : turn.1.waiting? party = some (update, deadline)) :
    task.waiting? party = some (update, deadline) ∨
      event.isOutside = false ∧ deadline ≤ around.now + task.setup.sendTimeout := by
  have attempter : ∀ kind : AttemptKind, kind.party = party →
      task.waiting? party = some (update, deadline) ∨
        event.isOutside = false ∧ deadline ≤ around.now + task.setup.sendTimeout := by
    rintro kind rfl
    rw [waiting_party] at waits ⊢
    by_cases other : event.party? ≠ some kind.party
    · exact .inl (move.attempter_kept other ▸ waits)
    · have own : event.party? = some kind.party := not_not.mp other
      cases move with
      | answered stands answered =>
        obtain rfl := AttemptKind.party_inj.mp (Option.some.inj own)
        exact .inr ⟨rfl, answered.waiting_le waits⟩
      | @began moved =>
        obtain rfl := AttemptKind.party_inj.mp (Option.some.inj own)
        obtain ⟨stage, role, request, begun⟩ := begin_shape task moved
        simp only [begun, frame_place] at waits
        cases waits
      | entered | woke | recovered | haltedAsleep | retired | deferred | sent | timedOut
      | haltedSending | refused =>
        obtain rfl := AttemptKind.party_inj.mp (Option.some.inj own)
        simp only [sleep, afterReport, frame_place] at waits
        cases waits
      | _ => cases kind <;> cases own
  cases party with
  | checker => cases waits
  | promoter => exact attempter .promotion rfl
  | reattacher => exact attempter .reattachment rfl
  | supervisor =>
    cases other : event.isForEnd with
    | false =>
      have same : turn.1.waiting? .supervisor = task.waiting? .supervisor :=
        congrArg (fun course => course.supervisor.waiting?) (move.course_kept other)
      exact .inl (same.symm.trans waits)
    | true =>
      cases move with
      | confirmed =>
        obtain ⟨-, rfl⟩ := Prod.mk.inj (Option.some.inj waits)
        exact .inr ⟨rfl, Nat.le_refl _⟩
      | cancelRequested => exact .inl waits
      | @entered kind | @woke kind | @recovered kind | @haltedAsleep kind | @retired kind
      | @began kind | @deferred kind | @answered kind | @sent kind | @timedOut kind
      | @haltedSending kind | @refused kind =>
        exact absurd (of_decide_eq_true other) kind.party_ne_supervisor
      | registered | signalled | dropSeen | confirmSeen | cancelSeen | cancelled | announced
      | announceTimedOut | announceCancelled | announceRefused | joined => cases waits
      | _ => cases other

end Task

end Inclusion
