import Inclusion.Proofs.Task.Lock
import Inclusion.Proofs.Task.Move

/-!
# What the parts of a step leave alone

A step of a task is put together from small changes: a loop is placed, the lock is asked for or
given back, a figure is counted. This module says once what each of them leaves as it was.

The part of a task in which its end is decided is its `course`. Two tasks are `Kin` if they differ
in nothing but what they know about their bundle. The return of a node call is then one of four
things, listed by `Progress`.
-/

namespace Inclusion.Task

/-- The part of a task in which its end is decided. -/
structure Course where
  supervisor : Supervisor
  phase : Phase
  stop : Bool
  cancel : Bool

def course (task : Task) : Course :=
  ⟨task.supervisor, task.phase, task.stop, task.cancel⟩

variable (task : Task)

/-- Placing a loop that makes attempts changes nothing but its position. -/
@[simp] theorem frame_place (kind : AttemptKind) (position : Attempter) :
    (task.place kind position).course = task.course ∧
      (task.place kind position).lock = task.lock ∧
      (task.place kind position).outbox = task.outbox ∧
      (task.place kind position).setup = task.setup ∧
      (task.place kind position).checker = task.checker ∧
      (task.place kind position).attempter kind = position := by
  cases kind <;> exact ⟨rfl, rfl, rfl, rfl, rfl, rfl⟩

theorem attempter_place_of_ne {kind other : AttemptKind} (different : other ≠ kind)
    (position : Attempter) : (task.place kind position).attempter other = task.attempter other := by
  cases kind <;> cases other <;> first | rfl | exact absurd rfl different

/-- Giving the lock back changes nothing but the lock. -/
@[simp] theorem frame_unlock :
    task.unlock.course = task.course ∧ task.unlock.lock = task.lock.release ∧
      task.unlock.outbox = task.outbox ∧ task.unlock.setup = task.setup ∧
      task.unlock.checker = task.checker ∧ task.unlock.attempter = task.attempter ∧
      task.unlock.standing = task.standing := by
  refine ⟨rfl, rfl, rfl, rfl, rfl, ?_, ?_⟩
  · funext kind; cases kind <;> rfl
  · funext party; cases party <;> rfl

/-- Asking for the lock changes nothing but the lock. -/
@[simp] theorem frame_requestLock (party : Party) :
    (task.requestLock party).course = task.course ∧
      (task.requestLock party).lock = task.lock.request party ∧
      (task.requestLock party).outbox = task.outbox ∧
      (task.requestLock party).setup = task.setup ∧
      (task.requestLock party).checker = task.checker ∧
      (task.requestLock party).attempter = task.attempter ∧
      (task.requestLock party).standing = task.standing := by
  refine ⟨rfl, rfl, rfl, rfl, rfl, ?_, ?_⟩
  · funext kind; cases kind <;> rfl
  · funext party; cases party <;> rfl

/-- After an attempt nothing changes but the lock and the loop's own position. -/
@[simp] theorem frame_afterReport (now : Nat) (kind : AttemptKind) (failed : Bool) :
    (task.afterReport now kind failed).course = task.course ∧
      (task.afterReport now kind failed).lock = task.lock.release ∧
      (task.afterReport now kind failed).outbox = task.outbox ∧
      (task.afterReport now kind failed).setup = task.setup ∧
      (task.afterReport now kind failed).checker = task.checker := by
  simp [afterReport, sleep]

/-- The rest of the checking loop changes nothing but its own position. -/
@[simp] theorem frame_restChecker (around : Surroundings) :
    (task.restChecker around).1.course = task.course ∧
      (task.restChecker around).1.lock = task.lock ∧
      (task.restChecker around).1.outbox = task.outbox ∧
      (task.restChecker around).1.setup = task.setup ∧
      (task.restChecker around).1.promoter = task.promoter ∧
      (task.restChecker around).1.reattacher = task.reattacher := by
  unfold restChecker
  split <;> exact ⟨rfl, rfl, rfl, rfl, rfl, rfl⟩

/-! ## How the loops stand -/

theorem standing_place (kind : AttemptKind) (position : Attempter) :
    (task.place kind position).standing =
      Function.update task.standing kind.party position.standing := by
  funext party
  cases kind <;> cases party <;> rfl

variable {task}

/-- A loop that moves without standing differently towards the lock changes no standing. -/
theorem standing_kept {party : Party} {stand : Standing} (same : stand = task.standing party) :
    Function.update task.standing party stand = task.standing := by
  rw [same, Function.update_eq_self]

/-- Whatever else it changes, a step that leaves the other loops where they stand changes only how
the checking loop stands. -/
theorem standing_checker {next : Task} (promoter : next.promoter = task.promoter)
    (reattacher : next.reattacher = task.reattacher)
    (supervisor : next.supervisor = task.supervisor) :
    next.standing = Function.update task.standing .checker next.checker.standing := by
  funext party
  cases party with
  | checker => rfl
  | promoter => exact congrArg Attempter.standing promoter
  | reattacher => exact congrArg Attempter.standing reattacher
  | supervisor => exact congrArg Supervisor.standing supervisor

theorem standing_checker_kept {next : Task} (promoter : next.promoter = task.promoter)
    (reattacher : next.reattacher = task.reattacher)
    (supervisor : next.supervisor = task.supervisor)
    (same : next.checker.standing = task.checker.standing) : next.standing = task.standing := by
  rw [standing_checker promoter reattacher supervisor]
  exact standing_kept same

/-- The same for the supervisor. -/
theorem standing_supervisor {next : Task} (checker : next.checker = task.checker)
    (promoter : next.promoter = task.promoter) (reattacher : next.reattacher = task.reattacher) :
    next.standing = Function.update task.standing .supervisor next.supervisor.standing := by
  funext party
  cases party with
  | checker => exact congrArg Checker.standing checker
  | promoter => exact congrArg Attempter.standing promoter
  | reattacher => exact congrArg Attempter.standing reattacher
  | supervisor => rfl

theorem standing_supervisor_kept {next : Task} (checker : next.checker = task.checker)
    (promoter : next.promoter = task.promoter) (reattacher : next.reattacher = task.reattacher)
    (same : next.supervisor.standing = task.supervisor.standing) :
    next.standing = task.standing := by
  rw [standing_supervisor checker promoter reattacher]
  exact standing_kept same

variable (task)

/-! ## The beginning of an attempt and the rest of the checking loop -/

/-- An attempt begins with a node call. -/
theorem begin_shape (kind : AttemptKind) :
    ∃ stage role request, task.begin kind =
      (task.place kind (.attempting stage), [.began kind, .call kind.party role request]) := by
  cases kind <;> exact ⟨_, _, _, rfl⟩

/-- The checking loop goes to sleep or ends. -/
theorem restChecker_position (around : Surroundings) :
    (∃ wake, (task.restChecker around).1.checker = .sleeping wake) ∨
      (task.restChecker around).1.checker = .done := by
  unfold restChecker
  split
  · exact .inl ⟨_, rfl⟩
  · exact .inr rfl

theorem restChecker_effects (around : Surroundings) :
    (task.restChecker around).2 = [] ∨
      (task.restChecker around).2 = [.leaveLoad, .loopEnded .checker] := by
  unfold restChecker
  split
  · exact .inl rfl
  · exact .inr rfl

/-- Either way it has nothing to do with the lock. -/
theorem restChecker_standing (around : Surroundings) :
    (task.restChecker around).1.checker.standing = .apart := by
  obtain ⟨wake, sleeps⟩ | ended := restChecker_position task around
  · rw [sleeps]; rfl
  · rw [ended]; rfl

/-! ## The return of a node call -/

/-- Two tasks that differ in nothing but what they know about their bundle. -/
structure Kin (task other : Task) : Prop where
  setup : other.setup = task.setup
  course : other.course = task.course
  lock : other.lock = task.lock
  outbox : other.outbox = task.outbox
  checker : other.checker = task.checker
  attempter : other.attempter = task.attempter

theorem Kin.refl : task.Kin task := ⟨rfl, rfl, rfl, rfl, rfl, rfl⟩

variable {task}

theorem Kin.standing {other : Task} (kin : task.Kin other) : other.standing = task.standing := by
  funext party
  cases party with
  | checker => exact congrArg Checker.standing kin.checker
  | promoter => exact congrArg Attempter.standing (congrFun kin.attempter .promotion)
  | reattacher => exact congrArg Attempter.standing (congrFun kin.attempter .reattachment)
  | supervisor => exact congrArg (fun course => course.supervisor.standing) kin.course

/-- A success counts, and sets the next attempt, only among what is known about the bundle. -/
theorem kin_credit (kind : AttemptKind) (attached : List String) (tail : Transaction) :
    task.Kin (task.credit kind attached tail) := by
  cases kind <;> exact ⟨rfl, rfl, rfl, rfl, rfl, by funext kind; cases kind <;> rfl⟩

theorem Kin.schedule {other : Task} (kin : task.Kin other) (now : Nat) (kind : AttemptKind)
    (next : Nat) : task.Kin (other.schedule now kind next) := by
  obtain ⟨setup, course, lock, outbox, checker, attempter⟩ := kin
  cases kind <;>
    exact ⟨setup, course, lock, outbox, checker,
      attempter ▸ by funext kind; cases kind <;> rfl⟩

theorem kin_noteVerdict (task : Task) (tail : Hash) (promotable : Bool) :
    task.Kin (task.noteVerdict tail promotable) := by
  unfold noteVerdict
  split
  · exact ⟨rfl, rfl, rfl, rfl, rfl, by funext kind; cases kind <;> rfl⟩
  · exact .refl task

/-- The update that reports the end of an attempt. -/
def outcome (task : Task) (kind : AttemptKind) (error : Option ConfirmerError) : Update :=
  task.report (if error.isSome then .noAction else kind.updateKind)
    (error.map ConfirmerError.message)

/-- What can become of an attempt when a node call returns. -/
inductive Progress (task : Task) (now : Nat) (kind : AttemptKind) : Turn → Prop where
  /-- It goes on with the next call. -/
  | called {other stage role request} (kin : task.Kin other) :
      Progress task now kind
        (other.place kind (.attempting stage), [.call kind.party role request])
  /-- It ends, and a report is put before the consumer. -/
  | reported {other error deadline} (kin : task.Kin other) (running : task.phase = .running)
      (live : task.stop = false) :
      Progress task now kind
        (other.place kind (.sending (other.outcome kind error) error.isSome deadline),
          [.ended kind error, .offered (other.outcome kind error)])
  /-- It ends in a task that is over or being stopped. -/
  | unreported {other error pause wake} (kin : task.Kin other)
      (past : ¬(task.phase = .running ∧ task.stop = false)) :
      Progress task now kind (other.unlock.place kind (.sleeping pause wake), [.ended kind error])
  /-- It succeeds, but its loop ends with it. -/
  | brokeOff {other} (kin : task.Kin other)
      (no_next : Clock.moment? now (task.period kind) = none) :
      Progress task now kind
        (other.unlock.place kind .done, [.brokeOff kind, .loopEnded kind.party])

/-- An attempt that ends is reported exactly if the task is running and not being stopped. -/
theorem Kin.finish {other : Task} (kin : task.Kin other) (now : Nat) (kind : AttemptKind)
    (error : Option ConfirmerError) :
    Progress task now kind (other.finish now kind error) := by
  have phase : other.phase = task.phase := congrArg Course.phase kin.course
  have stop : other.stop = task.stop := congrArg Course.stop kin.course
  by_cases reporting : task.phase = .running ∧ task.stop = false
  · simpa [Task.finish, phase, stop, reporting, outcome] using
      @Progress.reported task now kind other error _ kin reporting.1 reporting.2
  · simp only [Task.finish, phase, stop, if_neg reporting]
    exact .unreported kin reporting

/-- The return of a node call is one of the four. -/
theorem Answered.progress {now : Nat} {kind : AttemptKind} {stage : Stage} {verdict : Verdict}
    {turn : Turn} (answered : Answered task now kind stage verdict turn) :
    Progress task now kind turn := by
  have figures : ∀ attach select : Nat,
      task.Kin { task with attachTime := attach, tipSelectionTime := select } := fun _ _ =>
    ⟨rfl, rfl, rfl, rfl, rfl, by funext kind; cases kind <;> rfl⟩
  cases answered with
  | failed => exact (Kin.refl task).finish now kind _
  | prepared => exact .called (.refl task)
  | selected => exact .called (figures _ _)
  | malformed => exact (figures _ _).finish now kind _
  | foreign => exact (figures _ _).finish now kind _
  | attached => exact .called (figures _ _)
  | succeeded next => exact ((kin_credit kind _ _).schedule now kind _).finish now kind _
  | brokeOff no_next => exact .brokeOff (kin_credit kind _ _) no_next

end Inclusion.Task
