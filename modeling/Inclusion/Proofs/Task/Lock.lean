import Mathlib.Logic.Function.Basic
import Mathlib.Data.List.Nodup
import Inclusion.Task.State

/-!
# Where the loops of a task stand towards its lock

The lock records who holds it and who waits, and every loop records by its own position whether it
waits or holds. `Lock.Serves` says that the two records agree: those who wait or hold are exactly
those in the line, and whoever holds is at its head.

A loop at the head of the line that has not noticed yet still counts as waiting. Only one loop can
hold, since the head of a line is one loop.
-/

namespace Inclusion

/-- How a loop stands towards the lock of its task. -/
inductive Standing where
  | apart
  /-- It has asked for the lock and has not noticed that it has it. -/
  | waiting
  | holding
deriving DecidableEq, Repr

namespace Lock

/-- The holder, if there is one, and those who wait behind it, in order. -/
def line (lock : Lock) : List Party :=
  lock.holder.toList ++ lock.queue

/-- A lock that agrees with the positions of the loops. -/
structure Serves (lock : Lock) (standing : Party → Standing) : Prop where
  /-- Nobody waits for a free lock. -/
  free : lock.holder = none → lock.queue = []
  distinct : lock.line.Nodup
  /-- Exactly those who wait or hold are in the line. -/
  present : ∀ party, party ∈ lock.line ↔ standing party ≠ .apart
  /-- Whoever holds is at the head of the line. -/
  owned : ∀ party, standing party = .holding → lock.holder = some party

/-- Whoever asks for the lock comes to the end of the line. -/
theorem line_request {lock : Lock} (free : lock.holder = none → lock.queue = []) (party : Party) :
    (lock.request party).line = lock.line ++ [party] := by
  cases holder : lock.holder with
  | none => simp [request, line, holder, free holder]
  | some other => simp [request, line, holder]

/-- The lock goes to the one behind the head of the line. -/
theorem line_release {lock : Lock} {party : Party} (held : lock.holder = some party) :
    lock.line = party :: lock.release.line := by
  cases waiting : lock.queue with
  | nil => simp [release, line, held, waiting]
  | cons next rest => simp [release, line, held, waiting]

/-- The loops that have asked for the lock before a given one. -/
def before (lock : Lock) (party : Party) : List Party :=
  lock.line.takeWhile (· ≠ party)

/-- Whoever comes to the end of the line comes before nobody. -/
theorem before_request {lock : Lock} (free : lock.holder = none → lock.queue = [])
    {party : Party} (present : party ∈ lock.line) (other : Party) :
    (lock.request other).before party = lock.before party := by
  rw [before, before, line_request free]
  generalize lock.line = line at present
  induction line with
  | nil => cases present
  | cons first rest inductionHypothesis =>
    by_cases same : first = party
    · simp [same]
    · have later := (List.mem_cons.mp present).resolve_left (Ne.symm same)
      simpa [same] using inductionHypothesis later

/-- The holder comes before all others, and the rest stay in order when it gives the lock back. -/
theorem before_release {lock : Lock} {party other : Party} (held : lock.holder = some other)
    (different : other ≠ party) : lock.before party = other :: lock.release.before party := by
  simp [before, line_release held, different]

/-- A free lock serves loops that have nothing to do with it. -/
theorem serves_new : Serves {} fun _ => .apart where
  free := fun _ => rfl
  distinct := List.nodup_nil
  present := by simp [line]
  owned := by simp

namespace Serves

variable {lock : Lock} {standing : Party → Standing} {party other : Party}

/-- The head of the line is the only loop that can hold. -/
theorem holding_unique (serves : lock.Serves standing) (first : standing party = .holding)
    (second : standing other = .holding) : party = other := by
  have heads := (serves.owned party first).symm.trans (serves.owned other second)
  exact Option.some.inj heads

/-- Nobody but the holder holds. -/
theorem not_holding (serves : lock.Serves standing) (held : lock.holder = some party)
    (different : other ≠ party) : standing other ≠ .holding := by
  intro holding
  have same := (serves.owned other holding).symm.trans held
  exact different (Option.some.inj same)

/-- A loop that has nothing to do with the lock may ask for it. -/
theorem request (serves : lock.Serves standing) (away : standing party = .apart) :
    (lock.request party).Serves (Function.update standing party .waiting) := by
  have absent : party ∉ lock.line := by simp [serves.present, away]
  have line := line_request serves.free party
  constructor
  · intro unheld
    cases holder : lock.holder <;> simp [Lock.request, holder] at unheld
  · rw [line]
    have apart : ∀ one ∈ lock.line, one ≠ party := by
      intro one member
      exact ne_of_mem_of_not_mem member absent
    simpa [List.nodup_append] using ⟨serves.distinct, apart⟩
  · intro one
    rw [line, List.mem_append, serves.present one]
    by_cases same : one = party <;> simp [same]
  · intro one holding
    by_cases same : one = party
    · simp [same] at holding
    · rw [Function.update_of_ne same] at holding
      have held := serves.owned one holding
      simp [Lock.request, held]

/-- A loop that has come to the head of the line may take the lock. -/
theorem take (serves : lock.Serves standing) (held : lock.holder = some party) :
    lock.Serves (Function.update standing party .holding) where
  free := serves.free
  distinct := serves.distinct
  present := by
    intro one
    by_cases same : one = party
    · simp [same, line, held]
    · simp [same, serves.present]
  owned := by
    intro one holding
    by_cases same : one = party
    · rwa [same]
    · rw [Function.update_of_ne same] at holding
      exact serves.owned one holding

/-- The loop at the head of the line may give the lock back. -/
theorem release (serves : lock.Serves standing) (held : lock.holder = some party) :
    lock.release.Serves (Function.update standing party .apart) := by
  have line := line_release held
  have distinct := line ▸ serves.distinct
  rw [List.nodup_cons] at distinct
  constructor
  · intro unheld
    have nobody : lock.queue = [] := by simpa [Lock.release] using unheld
    simp [Lock.release, nobody]
  · exact distinct.2
  · intro one
    have present := serves.present one
    rw [line, List.mem_cons] at present
    by_cases same : one = party
    · simp [same, distinct.1]
    · simpa [same] using present
  · intro one holding
    by_cases same : one = party
    · simp [same] at holding
    · rw [Function.update_of_ne same] at holding
      exact absurd holding (serves.not_holding held same)

end Serves

end Lock

/-! ## The positions of the loops -/

/-- How a loop that makes attempts stands towards the lock. -/
def Attempter.standing : Attempter → Standing
  | queued => .waiting
  | attempting _ | sending _ _ _ => .holding
  | starting | sleeping _ _ | done => .apart

/-- How the checking loop stands towards the lock. It never keeps it for longer than a moment. -/
def Checker.standing : Checker → Standing
  | queued | reporting _ _ => .waiting
  | starting | asking _ | sleeping _ | done => .apart

/-- The checking loop gives the lock back at once. -/
theorem Checker.standing_ne_holding (position : Checker) : position.standing ≠ .holding := by
  cases position <;> nofun

/-- How the supervisor stands towards the lock. -/
def Supervisor.standing : Supervisor → Standing
  | queuedToConfirm | queuedToCancel => .waiting
  | announcing _ _ => .holding
  | starting | watching _ _ | joining | done => .apart

/-- How the loops of a task stand towards its lock. -/
def Task.standing (task : Task) : Party → Standing
  | .checker => task.checker.standing
  | .promoter => task.promoter.standing
  | .reattacher => task.reattacher.standing
  | .supervisor => task.supervisor.standing

@[simp] theorem Task.standing_party (task : Task) (kind : AttemptKind) :
    task.standing kind.party = (task.attempter kind).standing := by
  cases kind <;> rfl

@[simp] theorem AttemptKind.party_inj {first second : AttemptKind} :
    first.party = second.party ↔ first = second := by
  cases first <;> cases second <;> simp [AttemptKind.party]

/-- The supervisor makes no attempts. -/
theorem AttemptKind.party_ne_supervisor (kind : AttemptKind) : kind.party ≠ .supervisor := by
  cases kind <;> decide

/-- Nor does the checking loop. -/
theorem AttemptKind.party_ne_checker (kind : AttemptKind) : kind.party ≠ .checker := by
  cases kind <;> decide

end Inclusion
