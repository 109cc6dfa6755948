import Inclusion.Proofs.Task.Updates

/-!
# Settled tasks

A task is settled when it can bring about nothing by itself. Each loop then rests: it waits for a
moment that has not come, for a lock that another loop has, for a node, for a consumer who has not
taken the last update, or for a signal. A loop that waits for the lock waits for one that works
with it, since a loop that has come to the head of the line could go on.
-/

namespace Inclusion

variable (task : Task) (now : Nat)

/-- Why a loop that makes attempts goes no further. -/
def Attempter.Rests (party : Party) : Attempter → Prop
  | starting => False
  | sleeping _ wake => now < wake ∧ task.stop = false
  | queued => task.lock.holder ≠ some party
  | attempting _ => True
  | sending _ _ deadline =>
    now < deadline ∧ task.stop = false ∧ task.outbox.slot.isSome ∧ task.outbox.receiving = true
  | done => True

/-- Why the checking loop goes no further. -/
def Checker.Rests : Checker → Prop
  | starting => False
  | queued | reporting _ _ => task.lock.holder ≠ some .checker
  | asking _ => True
  | sleeping wake => now < wake ∧ task.stop = false
  | done => True

/-- Why the supervisor goes no further. -/
def Supervisor.Rests : Supervisor → Prop
  | starting => False
  | watching _ signal => signal = none ∧ task.cancel = false
  | queuedToConfirm | queuedToCancel => task.lock.holder ≠ some .supervisor
  | announcing _ deadline =>
    now < deadline ∧ task.cancel = false ∧ task.outbox.slot.isSome ∧ task.outbox.receiving = true
  | joining => task.workersDone = false
  | done => True

variable {task now}

/-- A loop that has come to the head of the line works with the lock, or could go on. -/
theorem Attempter.Rests.holding {position : Attempter} {party : Party}
    (rests : position.Rests task now party) (held : task.lock.holder = some party)
    (involved : position.standing ≠ .apart) : position.standing = .holding := by
  cases position with
  | queued => exact absurd held rests
  | attempting | sending => rfl
  | starting | sleeping | done => exact absurd rfl involved

theorem Checker.Rests.holding {position : Checker} (rests : position.Rests task now)
    (held : task.lock.holder = some .checker) (involved : position.standing ≠ .apart) :
    position.standing = .holding := by
  cases position with
  | queued | reporting => exact absurd held rests
  | starting | asking | sleeping | done => exact absurd rfl involved

theorem Supervisor.Rests.holding {position : Supervisor} (rests : position.Rests task now)
    (held : task.lock.holder = some .supervisor) (involved : position.standing ≠ .apart) :
    position.standing = .holding := by
  cases position with
  | queuedToConfirm | queuedToCancel => exact absurd held rests
  | announcing => rfl
  | starting | watching | joining | done => exact absurd rfl involved

namespace Task

variable {around : Surroundings} {task : Task}

/-- A settled task can make no move of its own. -/
theorem isSettled_iff : task.isSettled around = true ↔
    ∀ event ∈ ownEvents, ∀ turn, ¬Move around task event turn := by
  rw [isSettled, nextEvent?, Option.isNone_iff_eq_none, List.find?_eq_none]
  refine forall₂_congr fun event member => ?_
  rw [Option.not_isSome_iff_eq_none, Option.eq_none_iff_forall_ne_some]
  exact forall_congr' fun turn => not_congr step_eq_some_iff

/-- The consumer has not taken the last update if no other can be sent. -/
private theorem full_of_no_room (no_room : ¬task.outbox.slot = none) :
    task.outbox.slot.isSome = true := by
  rwa [← Option.ne_none_iff_isSome]

/-- In a settled task every loop that makes attempts rests. -/
theorem attempter_rests (settled : task.isSettled around = true) (kind : AttemptKind) :
    (task.attempter kind).Rests task around.now kind.party := by
  have stuck := isSettled_iff.mp settled
  have own : .entered kind.party ∈ ownEvents ∧ .granted kind.party ∈ ownEvents ∧
      .elapsed kind.party ∈ ownEvents ∧ .halted kind.party ∈ ownEvents ∧
      .sent kind.party ∈ ownEvents ∧ .refused kind.party ∈ ownEvents := by
    cases kind <;> decide
  obtain ⟨entered, granted, elapsed, halted, sent, refused⟩ := own
  cases stands : task.attempter kind with
  | starting => exact stuck _ entered _ (.entered stands)
  | sleeping pause wake =>
    refine ⟨?_, ?_⟩
    · by_contra due
      cases pause with
      | tick => exact stuck _ elapsed _ (.woke stands (Nat.le_of_not_lt due))
      | backoff => exact stuck _ elapsed _ (.recovered stands (Nat.le_of_not_lt due))
    · by_contra stopped
      exact stuck _ halted _ (.haltedAsleep stands (eq_true_of_ne_false stopped))
  | queued =>
    intro held
    by_cases running : task.phase = .running
    · cases due : task.isDue around.now kind with
      | true => exact stuck _ granted _ (.began stands held running due)
      | false => exact stuck _ granted _ (.deferred stands held running due)
    · exact stuck _ granted _ (.retired stands held running)
  | attempting stage => trivial
  | sending update failed deadline =>
    have receiving : task.outbox.receiving = true := by
      by_contra gone
      exact stuck _ refused _ (.refused stands (eq_false_of_ne_true gone))
    refine ⟨?_, ?_, ?_, receiving⟩
    · by_contra due
      exact stuck _ elapsed _ (.timedOut stands (Nat.le_of_not_lt due))
    · by_contra stopped
      exact stuck _ halted _ (.haltedSending stands (eq_true_of_ne_false stopped))
    · exact full_of_no_room fun room => stuck _ sent _ (.sent stands room receiving)
  | done => trivial

/-- In a settled task the checking loop rests. -/
theorem checker_rests (settled : task.isSettled around = true) :
    task.checker.Rests task around.now := by
  have stuck := isSettled_iff.mp settled
  have not_held : task.checker.standing = .waiting → task.lock.holder ≠ some .checker := by
    intro waits held
    cases stands : task.checker with
    | queued =>
      by_cases running : task.phase = .running
      · exact stuck (.granted .checker) (by decide) _ (.asked stands held running)
      · exact stuck (.granted .checker) (by decide) _ (.checkerRetired stands held running)
    | reporting tail promotable =>
      exact stuck (.granted .checker) (by decide) _ (.judged stands held)
    | starting | asking | sleeping | done => simp [stands, Checker.standing] at waits
  cases stands : task.checker with
  | starting => exact stuck (.entered .checker) (by decide) _ (.checkerEntered stands)
  | queued | reporting => exact not_held (by rw [stands]; rfl)
  | asking => trivial
  | sleeping wake =>
    refine ⟨?_, ?_⟩
    · by_contra due
      exact stuck (.elapsed .checker) (by decide) _ (.checkerWoke stands (Nat.le_of_not_lt due))
    · by_contra stopped
      exact stuck (.halted .checker) (by decide) _
        (.checkerHalted stands (eq_true_of_ne_false stopped))
  | done => trivial

/-- In a settled task the supervisor rests. -/
theorem supervisor_rests (settled : task.isSettled around = true) :
    task.supervisor.Rests task around.now := by
  have stuck := isSettled_iff.mp settled
  cases stands : task.supervisor with
  | starting => exact stuck (.entered .supervisor) (by decide) _ (.registered stands)
  | watching ticket signal =>
    refine ⟨?_, ?_⟩
    · cases signal with
      | none => rfl
      | some signal =>
        cases signal with
        | fired => exact absurd (.confirmSeen stands) (stuck .confirmSeen (by decide) _)
        | dropped => exact absurd (.dropSeen stands) (stuck .dropSeen (by decide) _)
    · by_contra cancelled
      exact stuck .cancelSeen (by decide) _ (.cancelSeen stands (eq_true_of_ne_false cancelled))
  | queuedToConfirm =>
    exact fun held => stuck (.granted .supervisor) (by decide) _ (.confirmed stands held)
  | queuedToCancel =>
    exact fun held => stuck (.granted .supervisor) (by decide) _ (.cancelled stands held)
  | announcing update deadline =>
    have receiving : task.outbox.receiving = true := by
      by_contra gone
      exact stuck (.refused .supervisor) (by decide) _
        (.announceRefused stands (eq_false_of_ne_true gone))
    refine ⟨?_, ?_, ?_, receiving⟩
    · by_contra due
      exact stuck (.elapsed .supervisor) (by decide) _
        (.announceTimedOut stands (Nat.le_of_not_lt due))
    · by_contra cancelled
      exact stuck .cancelSeen (by decide) _
        (.announceCancelled stands (eq_true_of_ne_false cancelled))
    · exact full_of_no_room fun room =>
        stuck (.sent .supervisor) (by decide) _ (.announced stands room receiving)
  | joining =>
    by_contra ended
    exact stuck .joined (by decide) _ (.joined stands (eq_true_of_ne_false ended))
  | done => trivial

/-- In a settled task whoever has the lock works with it. -/
theorem holding_of_settled (sound : task.Sound) (settled : task.isSettled around = true)
    {party : Party} (held : task.lock.holder = some party) : task.standing party = .holding := by
  have present : party ∈ task.lock.line := by simp [Lock.line, held]
  have involved := (sound.lock.present party).mp present
  cases party with
  | checker => exact (checker_rests settled).holding held involved
  | promoter => exact (attempter_rests settled .promotion).holding held involved
  | reattacher => exact (attempter_rests settled .reattachment).holding held involved
  | supervisor => exact (supervisor_rests settled).holding held involved

/-- In a settled task a loop waits for the lock only while another works with it. -/
theorem exists_holding_of_settled (sound : task.Sound) (settled : task.isSettled around = true)
    {party : Party} (waits : task.standing party = .waiting) :
    ∃ other, task.lock.holder = some other ∧ task.standing other = .holding := by
  have present : party ∈ task.lock.line := by
    rw [sound.lock.present, waits]
    nofun
  cases held : task.lock.holder with
  | none => simp [Lock.line, held, sound.lock.free held] at present
  | some other => exact ⟨other, rfl, holding_of_settled sound settled held⟩

end Task

end Inclusion
