import Inclusion.Proofs.Task.Frame

/-!
# What holds of a task at every moment

A task is `Sound` if its lock serves the positions of its loops, if its phase and its flags are
what the position of its supervisor accounts for, if no attempt is at work once it is over, and if
nobody has gone home before the others. A task is sound when it is started, and no step makes it
unsound.

The lock changes in one of four ways at a step, listed by `LockChange`; whoever is given the lock
to work with, the supervisor apart, is given it by a running task.
-/

namespace Inclusion

namespace Task

/-- The ways in which the end of a task comes about, with the events that bring about a change of
the phase, the very end and the request from outside. -/
inductive Course.Step : Event → Course → Course → Prop where
  | kept {event course} : Step event course course
  | registered {event supervisor phase stop cancel ticket}
      (stands : supervisor = .starting ∨
        ∃ earlier, supervisor = .watching earlier (some .dropped)) :
      Step event ⟨supervisor, phase, stop, cancel⟩ ⟨.watching ticket none, phase, stop, cancel⟩
  | signalled {event phase stop cancel ticket signal} :
      Step event ⟨.watching ticket none, phase, stop, cancel⟩
        ⟨.watching ticket (some signal), phase, stop, cancel⟩
  | confirmSeen {event phase stop cancel ticket} :
      Step event ⟨.watching ticket (some .fired), phase, stop, cancel⟩
        ⟨.queuedToConfirm, phase, stop, cancel⟩
  | cancelSeen {event phase stop cancel ticket signal} (cancelled : cancel = true) :
      Step event ⟨.watching ticket signal, phase, stop, cancel⟩
        ⟨.queuedToCancel, phase, true, cancel⟩
  | confirmed {phase stop cancel update deadline} :
      Step (.granted .supervisor) ⟨.queuedToConfirm, phase, stop, cancel⟩
        ⟨.announcing update deadline, .confirmed, true, cancel⟩
  | cancelled {phase stop cancel} :
      Step (.granted .supervisor) ⟨.queuedToCancel, phase, stop, cancel⟩
        ⟨.joining, .cancelled, stop, cancel⟩
  | announced {event phase stop cancel update deadline} :
      Step event ⟨.announcing update deadline, phase, stop, cancel⟩ ⟨.joining, phase, stop, cancel⟩
  | joined {phase stop cancel} :
      Step .joined ⟨.joining, phase, stop, cancel⟩ ⟨.done, phase, stop, cancel⟩
  | cancelRequested {supervisor phase stop cancel} :
      Step .cancelRequested ⟨supervisor, phase, stop, cancel⟩ ⟨supervisor, phase, stop, true⟩

/-- What the position of the supervisor says about the end of a task. The loops are told to end
before the task is over if it is cancelled, and at the same moment if it is confirmed. -/
def Course.Consistent (course : Course) : Prop :=
  match course.supervisor with
  | .starting | .watching _ _ | .queuedToConfirm => course.phase = .running ∧ course.stop = false
  | .queuedToCancel => course.phase = .running ∧ course.stop = true ∧ course.cancel = true
  | .announcing _ _ => course.phase = .confirmed ∧ course.stop = true
  | .joining | .done =>
    (course.phase = .confirmed ∨ course.phase = .cancelled ∧ course.cancel = true) ∧
      course.stop = true

/-- What the course says of a task whose supervisor waits for the other loops, or has ended. -/
theorem Course.Consistent.ended {course : Course} (consistent : course.Consistent)
    (ending : course.supervisor = .joining ∨ course.supervisor = .done) :
    (course.phase = .confirmed ∨ course.phase = .cancelled ∧ course.cancel = true) ∧
      course.stop = true := by
  rcases ending with stands | stands <;> simpa [Consistent, stands] using consistent

/-- How a step changes the lock and who stands how towards it. -/
inductive LockChange (task next : Task) : Prop where
  | kept (lock : next.lock = task.lock) (standing : next.standing = task.standing)
  | asked (party : Party) (away : task.standing party = .apart)
      (lock : next.lock = task.lock.request party)
      (standing : next.standing = Function.update task.standing party .waiting)
  | took (party : Party) (held : task.lock.holder = some party)
      (entitled : party ≠ .supervisor → task.phase = .running)
      (lock : next.lock = task.lock)
      (standing : next.standing = Function.update task.standing party .holding)
  | gave (party : Party) (held : task.lock.holder = some party)
      (lock : next.lock = task.lock.release)
      (standing : next.standing = Function.update task.standing party .apart)

/-- A task whose parts agree. -/
structure Sound (task : Task) : Prop where
  lock : task.lock.Serves task.standing
  course : task.course.Consistent
  /-- Nobody is at work on an attempt, or reports one, once the task is over. -/
  quiet : task.phase ≠ .running → ∀ kind, (task.attempter kind).standing ≠ .holding
  /-- The supervisor ends last. -/
  last : task.supervisor = .done → task.workersDone = true

variable {around : Surroundings} {task : Task} {event : Event} {turn : Turn}

/-! ## The lock -/

/-- A loop at work gives the lock back and goes elsewhere. -/
theorem LockChange.leaves {other : Task} {kind : AttemptKind} {position : Attempter}
    (serves : task.lock.Serves task.standing) (lock : other.lock = task.lock)
    (standing : other.standing = task.standing)
    (holds : (task.attempter kind).standing = .holding) (goes : position.standing = .apart) :
    LockChange task (other.unlock.place kind position) := by
  have held : task.lock.holder = some kind.party :=
    serves.owned _ ((standing_party task kind).trans holds)
  refine .gave kind.party held ?_ ?_
  · simp [lock]
  · simp [standing_place, standing, goes]

/-- The four ways cover every step. -/
theorem Move.lockChange (serves : task.lock.Serves task.standing)
    (move : Move around task event turn) : LockChange task turn.1 := by
  have away : ∀ {kind : AttemptKind}, (task.attempter kind).standing = .apart →
      task.standing kind.party = .apart := fun stands => (standing_party task _).trans stands
  cases move with
  | entered stands | recovered stands | haltedAsleep stands =>
    have same := (congrArg Attempter.standing stands).symm.trans (standing_party task _).symm
    exact .kept (by simp [sleep]) ((standing_place task _ _).trans (standing_kept same))
  | woke stands =>
    refine .asked _ (away (by rw [stands]; rfl)) (by simp) ?_
    simp [standing_place, Attempter.standing]
  | @retired kind stands held | @deferred kind stands held =>
    refine .gave _ held (by simp [sleep]) ?_
    simp [sleep, standing_place, Attempter.standing]
  | @began kind stands held running =>
    obtain ⟨stage, role, request, begun⟩ := begin_shape task kind
    rw [begun]
    exact .took _ held (fun _ => running) (by simp) (standing_place task kind _)
  | answered stands answered =>
    have holds := congrArg Attempter.standing stands
    cases answered.progress with
    | called kin | reported kin =>
      refine .kept (by simp [kin.lock]) ((standing_place _ _ _).trans ?_)
      rw [kin.standing]
      exact standing_kept (holds.symm.trans (standing_party task _).symm)
    | unreported kin | brokeOff kin => exact .leaves serves kin.lock kin.standing holds rfl
  | sent stands | timedOut stands | haltedSending stands | refused stands =>
    have holds := congrArg Attempter.standing stands
    exact .leaves serves rfl rfl holds rfl
  | checkerEntered stands | checkerWoke stands | checkAnswered stands =>
    exact .asked .checker (congrArg Checker.standing stands) rfl (standing_checker rfl rfl rfl)
  | checkerHalted stands =>
    have same := (congrArg Checker.standing stands).symm
    exact .kept rfl (standing_checker_kept rfl rfl rfl same)
  | checkerRetired stands held | asked stands held =>
    exact .gave .checker held rfl (standing_checker rfl rfl rfl)
  | @judged tail promotable stands held =>
    have kin := kin_noteVerdict task tail promotable
    obtain ⟨course, lock, -, -, promoter, reattacher⟩ :=
      frame_restChecker (task.noteVerdict tail promotable).unlock around
    refine .gave .checker held (lock.trans (congrArg Lock.release kin.lock)) ?_
    have stood := standing_checker promoter reattacher (congrArg Course.supervisor course)
    rwa [restChecker_standing, (frame_unlock _).2.2.2.2.2.2, kin.standing] at stood
  | checkFailed stands =>
    obtain ⟨course, lock, -, -, promoter, reattacher⟩ := frame_restChecker task around
    refine .kept lock (standing_checker_kept promoter reattacher
      (congrArg Course.supervisor course) ?_)
    rw [restChecker_standing, stands]
    rfl
  | registered stands | signalled stands | dropSeen stands =>
    have same := (congrArg Supervisor.standing stands).symm
    exact .kept rfl (standing_supervisor_kept rfl rfl rfl same)
  | confirmSeen stands | cancelSeen stands =>
    exact .asked .supervisor (congrArg Supervisor.standing stands) rfl
      (standing_supervisor rfl rfl rfl)
  | confirmed stands held =>
    exact .took .supervisor held (absurd rfl) rfl (standing_supervisor rfl rfl rfl)
  | cancelled stands held => exact .gave .supervisor held rfl (standing_supervisor rfl rfl rfl)
  | announced stands | announceTimedOut stands | announceCancelled stands
  | announceRefused stands =>
    have held := serves.owned .supervisor (congrArg Supervisor.standing stands)
    exact .gave .supervisor held rfl (standing_supervisor rfl rfl rfl)
  | joined stands =>
    have same := (congrArg Supervisor.standing stands).symm
    exact .kept rfl (standing_supervisor_kept rfl rfl rfl same)
  | cancelRequested | received | streamDropped =>
    exact .kept rfl (funext fun party => by cases party <;> rfl)

/-- However the lock changes, it goes on serving the loops. -/
theorem LockChange.serves {next : Task} (change : LockChange task next)
    (serves : task.lock.Serves task.standing) : next.lock.Serves next.standing := by
  cases change with
  | kept lock standing => rwa [lock, standing]
  | asked party away lock standing =>
    rw [lock, standing]
    exact serves.request away
  | took party held entitled lock standing =>
    rw [lock, standing]
    exact serves.take held
  | gave party held lock standing =>
    rw [lock, standing]
    exact serves.release held

/-- Whoever works with the lock after a step has done so before, or has come to it in a running
task, or is the supervisor. -/
theorem LockChange.holding {next : Task} (change : LockChange task next) {party : Party}
    (holds : next.standing party = .holding) :
    task.standing party = .holding ∨ task.phase = .running ∨ party = .supervisor := by
  cases change with
  | kept lock standing => exact .inl (standing ▸ holds)
  | asked other away lock standing | gave other held lock standing =>
    rw [standing, Function.update_apply] at holds
    split at holds
    · cases holds
    · exact .inl holds
  | took other held entitled lock standing =>
    rw [standing, Function.update_apply] at holds
    split at holds
    · next same =>
      rw [same]
      by_cases supervising : other = .supervisor
      · exact .inr (.inr supervising)
      · exact .inr (.inl (entitled supervising))
    · exact .inl holds

/-- When a loop that waited is served, nobody else works with the lock. -/
theorem LockChange.served {next : Task} (change : LockChange task next)
    (serves : task.lock.Serves task.standing) {party other : Party}
    (waited : task.standing party = .waiting) (served : next.standing party ≠ .waiting)
    (different : other ≠ party) : next.standing other ≠ .holding := by
  cases change with
  | kept lock standing => exact absurd (standing ▸ waited) served
  | asked third away lock standing =>
    have same : third ≠ party := by
      rintro rfl
      exact nomatch away.symm.trans waited
    rw [standing, Function.update_of_ne same.symm] at served
    exact absurd waited served
  | took third held entitled lock standing | gave third held lock standing =>
    obtain rfl : third = party := by
      by_contra same
      rw [standing, Function.update_of_ne (Ne.symm same)] at served
      exact served waited
    rw [standing, Function.update_of_ne different]
    exact serves.not_holding held different

/-! ## The end of a task -/

theorem Course.Step.of_eq {course next : Course} (same : next = course) :
    Course.Step event course next :=
  same ▸ .kept

/-- Whether an event has to do with the end of a task: it is one of the supervisor, or the request
to cancel. -/
def Event.isForEnd : Event → Bool
  | entered party | granted party | elapsed party | halted party | sent party | refused party
  | answered party _ => party = .supervisor
  | confirmSeen | dropSeen | cancelSeen | joined | signalled _ _ | cancelRequested => true
  | received | streamDropped => false

/-- No other event concerns the end of the task. -/
theorem Move.course_kept (move : Move around task event turn) (other : event.isForEnd = false) :
    turn.1.course = task.course := by
  cases move with
  | @began kind =>
    obtain ⟨stage, role, request, begun⟩ := begin_shape task kind
    simp [begun]
  | answered stands answered =>
    cases answered.progress with
    | called kin | reported kin | unreported kin | brokeOff kin => simp [kin.course]
  | entered | woke | recovered | haltedAsleep | retired | deferred => simp [sleep]
  | sent | timedOut | haltedSending | refused => exact (frame_afterReport _ _ _ _).1
  | judged => exact (frame_restChecker _ around).1.trans (kin_noteVerdict _ _ _).course
  | checkFailed => exact (frame_restChecker task around).1
  | checkerEntered | checkerWoke | checkerHalted | checkerRetired | asked | checkAnswered
  | received | streamDropped => rfl
  | _ => cases other

/-- The end of a task comes about in no other way. -/
theorem Move.course (move : Move around task event turn) :
    Course.Step event task.course turn.1.course := by
  have stood : task.course = ⟨task.supervisor, task.phase, task.stop, task.cancel⟩ := rfl
  cases other : event.isForEnd with
  | false => exact .of_eq (move.course_kept other)
  | true =>
    cases move with
    | registered stands =>
      rw [stood, stands]
      exact .registered (.inl rfl)
    | dropSeen stands =>
      rw [stood, stands]
      exact .registered (.inr ⟨_, rfl⟩)
    | signalled stands =>
      rw [stood, stands]
      exact .signalled
    | confirmSeen stands =>
      rw [stood, stands]
      exact .confirmSeen
    | cancelSeen stands cancelled =>
      rw [stood, stands]
      exact .cancelSeen cancelled
    | confirmed stands =>
      rw [stood, stands]
      exact .confirmed
    | cancelled stands =>
      rw [stood, stands]
      exact .cancelled
    | announced stands | announceTimedOut stands | announceCancelled stands
    | announceRefused stands =>
      rw [stood, stands]
      exact .announced
    | joined stands =>
      rw [stood, stands]
      exact .joined
    | cancelRequested => exact .cancelRequested
    | @entered kind | @woke kind | @recovered kind | @haltedAsleep kind | @retired kind
    | @began kind | @deferred kind | @answered kind | @sent kind | @timedOut kind
    | @haltedSending kind | @refused kind =>
      exact absurd (of_decide_eq_true other) kind.party_ne_supervisor
    | _ => cases other

/-- The supervisor goes on accounting for the phase and the flags. -/
theorem Course.Step.consistent {course next : Course} (step : Course.Step event course next)
    (consistent : course.Consistent) : next.Consistent := by
  cases step with
  | kept => exact consistent
  | registered stands => rcases stands with rfl | ⟨_, rfl⟩ <;> exact consistent
  | signalled | confirmSeen => exact consistent
  | cancelSeen cancelled => exact ⟨consistent.1, rfl, cancelled⟩
  | confirmed => exact ⟨rfl, rfl⟩
  | cancelled => exact ⟨.inr ⟨rfl, consistent.2.2⟩, consistent.2.1⟩
  | announced => exact ⟨.inl consistent.1, consistent.2⟩
  | joined => exact consistent
  | @cancelRequested supervisor phase stop cancel =>
    cases supervisor with
    | starting | watching | queuedToConfirm | announcing => exact consistent
    | queuedToCancel => exact ⟨consistent.1, consistent.2.1, rfl⟩
    | joining | done => exact ⟨consistent.1.imp_right fun past => ⟨past.1, rfl⟩, consistent.2⟩

/-! ## The end of the loops -/

theorem workersDone_iff :
    task.workersDone = true ↔ task.checker = .done ∧ ∀ kind, task.attempter kind = .done := by
  constructor
  · intro ended
    simp only [workersDone, Bool.and_eq_true, decide_eq_true_eq] at ended
    exact ⟨ended.1.1, fun kind => by cases kind <;> [exact ended.1.2; exact ended.2]⟩
  · rintro ⟨checker, attempters⟩
    simp [workersDone, checker, show task.promoter = .done from attempters .promotion,
      show task.reattacher = .done from attempters .reattachment]

/-- A working loop that has ended does not begin anew. -/
theorem Move.workersDone (move : Move around task event turn) (ended : task.workersDone = true) :
    turn.1.workersDone = true := by
  obtain ⟨checker, attempters⟩ := workersDone_iff.mp ended
  cases move with
  | entered stands | woke stands | recovered stands | haltedAsleep stands | retired stands
  | began stands | deferred stands | answered stands | sent stands | timedOut stands
  | haltedSending stands | refused stands =>
    rw [attempters] at stands
    cases stands
  | checkerEntered stands | checkerWoke stands | checkerHalted stands | checkerRetired stands
  | asked stands | judged stands | checkFailed stands | checkAnswered stands =>
    rw [checker] at stands
    cases stands
  | _ => exact ended

/-! ## Soundness -/

/-- A task is sound when it is started. -/
theorem sound_start (setup : Setup) (tail : Transaction) (trytes : List String)
    (now forced : Nat) : (start setup tail trytes now forced).Sound where
  lock := by
    have standing : (start setup tail trytes now forced).standing = fun _ => .apart := by
      funext party
      cases party <;> rfl
    rw [standing]
    exact Lock.serves_new
  course := ⟨rfl, rfl⟩
  quiet := absurd rfl
  last := nofun

/-- Only the supervisor changes the phase, when it has the lock. -/
theorem Course.Step.phase_eq {course next : Course} (step : Course.Step event course next)
    (other : event ≠ .granted .supervisor) : next.phase = course.phase := by
  cases step with
  | confirmed => exact absurd rfl other
  | cancelled => exact absurd rfl other
  | _ => rfl

/-- It has waited for the lock before. -/
theorem Course.Step.phase {course next : Course} (step : Course.Step event course next) :
    next.phase = course.phase ∨
      course.supervisor.standing = .waiting ∧ next.supervisor.standing ≠ .waiting := by
  cases step with
  | confirmed => exact .inr ⟨rfl, nofun⟩
  | cancelled => exact .inr ⟨rfl, nofun⟩
  | _ => exact .inl rfl

/-- The supervisor ends by joining the others. -/
theorem Course.Step.done {course next : Course} (step : Course.Step event course next)
    (ended : next.supervisor = .done) : course.supervisor = .done ∨ event = .joined := by
  cases step with
  | joined => exact .inr rfl
  | kept | cancelRequested => exact .inl ended
  | _ => cases ended

/-- No step makes a sound task unsound. -/
theorem Sound.step (sound : task.Sound) (move : Move around task event turn) : turn.1.Sound where
  lock := (move.lockChange sound.lock).serves sound.lock
  course := move.course.consistent sound.course
  quiet := by
    intro past kind holds
    have change := move.lockChange sound.lock
    rw [← standing_party] at holds
    obtain same | ⟨waited, served⟩ := move.course.phase
    · have past : task.phase ≠ .running := fun running => past (same.trans running)
      obtain held | running | supervising := change.holding holds
      · exact sound.quiet past kind ((standing_party task kind).symm.trans held)
      · exact past running
      · exact kind.party_ne_supervisor supervising
    · have waited : task.standing .supervisor = .waiting := waited
      exact change.served sound.lock waited served kind.party_ne_supervisor holds
  last := by
    intro ended
    obtain before | rfl := move.course.done ended
    · exact move.workersDone (sound.last before)
    · cases move with
      | joined _ gone => exact gone

end Inclusion.Task
