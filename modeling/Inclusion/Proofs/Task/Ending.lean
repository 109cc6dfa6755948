import Inclusion.Proofs.Task.Settled

/-!
# What a task that is to end still waits for

A task is to end once its supervisor has been told of the confirmation, or once it is cancelled.
This module says what can still hold it up when it is settled.

A confirmation waits for an attempt at work, for a consumer who does not take the updates, and for
a node that the checking loop asks; for nothing else. A cancellation releases every loop that waits
for the consumer, with a single exception: if the supervisor has noticed the confirmation first, it
is in line for the lock and no longer notices the cancellation, so nobody tells a loop that waits
with an update, and has the lock, to end.
-/

namespace Inclusion

/-- Whether the supervisor has been told of the confirmation. -/
def Supervisor.isTold : Supervisor → Bool
  | watching _ signal => signal = some .fired
  | queuedToConfirm | announcing _ _ | joining | done => true
  | starting | queuedToCancel => false

namespace Task

variable {around : Surroundings} {task : Task} {event : Event}

/-- Unless it notices a cancellation, a supervisor that has been told goes on to confirm. -/
theorem Course.Step.told {course next : Course} (step : Course.Step event course next)
    (uncancelled : course.cancel = false) (told : course.supervisor.isTold = true) :
    next.supervisor.isTold = true := by
  cases step with
  | kept | cancelRequested => exact told
  | registered stands => rcases stands with rfl | ⟨_, rfl⟩ <;> cases told
  | signalled => cases told
  | cancelSeen cancelled => exact absurd (cancelled.symm.trans uncancelled) nofun
  | confirmSeen | confirmed | cancelled | announced | joined => rfl

/-- Only attempts, and a supervisor with its last update, work with the lock. -/
theorem works_of_holding {party : Party} (holds : task.standing party = .holding) :
    (∃ kind : AttemptKind, party = kind.party ∧
        ((∃ stage, task.attempter kind = .attempting stage) ∨
          ∃ update failed deadline, task.attempter kind = .sending update failed deadline)) ∨
      party = .supervisor ∧ ∃ update deadline, task.supervisor = .announcing update deadline := by
  have works : ∀ kind : AttemptKind, (task.attempter kind).standing = .holding →
      (∃ stage, task.attempter kind = .attempting stage) ∨
        ∃ update failed deadline, task.attempter kind = .sending update failed deadline := by
    intro kind holds
    cases stands : task.attempter kind with
    | attempting stage => exact .inl ⟨stage, rfl⟩
    | sending update failed deadline => exact .inr ⟨update, failed, deadline, rfl⟩
    | starting | sleeping | queued | done => simp [stands, Attempter.standing] at holds
  cases party with
  | checker => exact absurd holds task.checker.standing_ne_holding
  | promoter => exact .inl ⟨.promotion, rfl, works .promotion holds⟩
  | reattacher => exact .inl ⟨.reattachment, rfl, works .reattachment holds⟩
  | supervisor =>
    cases stands : task.supervisor with
    | announcing update deadline => exact .inr ⟨rfl, update, deadline, rfl⟩
    | _ => simp [standing, stands, Supervisor.standing] at holds

/-! ## A confirmation -/

/-- In a settled task whose loops have been told to end, a loop that makes attempts and has nothing
to do with the lock has ended. -/
theorem done_of_settled (settled : task.isSettled around = true) (stopped : task.stop = true)
    {kind : AttemptKind} (away : task.standing kind.party = .apart) :
    task.attempter kind = .done := by
  have rests := attempter_rests settled kind
  rw [standing_party] at away
  cases stands : task.attempter kind with
  | starting => simp [stands, Attempter.Rests] at rests
  | sleeping => simp [stands, Attempter.Rests, stopped] at rests
  | queued | attempting | sending => simp [stands, Attempter.standing] at away
  | done => rfl

/-- In a settled task without an attempt at work whose updates have been taken, no loop has to do
with the lock. -/
theorem apart_of_settled (sound : task.Sound) (settled : task.isSettled around = true)
    (idle : ∀ kind stage, task.attempter kind ≠ .attempting stage)
    (taken : task.outbox.slot = none) (party : Party) : task.standing party = .apart := by
  have nobody_holds : ∀ party, task.standing party ≠ .holding := by
    intro party holds
    obtain ⟨kind, -, ⟨stage, stands⟩ | ⟨update, failed, deadline, stands⟩⟩ |
      ⟨-, update, deadline, stands⟩ := works_of_holding holds
    · exact idle kind stage stands
    · have rests := attempter_rests settled kind
      rw [stands] at rests
      simp [Attempter.Rests, taken] at rests
    · have rests := supervisor_rests settled
      rw [stands] at rests
      simp [Supervisor.Rests, taken] at rests
  cases stands : task.standing party with
  | apart => rfl
  | waiting =>
    obtain ⟨other, -, holds⟩ := exists_holding_of_settled sound settled stands
    exact absurd holds (nobody_holds other)
  | holding => exact absurd stands (nobody_holds party)

/-- A supervisor that has been told, in such a task, waits for the other loops or has ended. -/
theorem ending_of_told (settled : task.isSettled around = true)
    (told : task.supervisor.isTold = true) (away : task.standing .supervisor = .apart) :
    task.supervisor = .joining ∨ task.supervisor = .done := by
  have rests := supervisor_rests settled
  have away : task.supervisor.standing = .apart := away
  cases stands : task.supervisor with
  | starting | queuedToCancel => simp [stands, Supervisor.isTold] at told
  | watching ticket signal =>
    rw [stands] at rests told
    simp [Supervisor.isTold, rests.1] at told
  | queuedToConfirm | announcing => simp [stands, Supervisor.standing] at away
  | joining => exact .inl rfl
  | done => exact .inr rfl

/-- If it waits for the other loops, it waits for the checking loop, which asks a node. -/
theorem asking_of_joining (settled : task.isSettled around = true) (stopped : task.stop = true)
    (joins : task.supervisor = .joining) (away : ∀ party, task.standing party = .apart) :
    ∃ tail, task.checker = .asking tail := by
  have workers : task.workersDone = false := by
    have rests := supervisor_rests settled
    rwa [joins] at rests
  have resting := checker_rests settled
  have checker_away : task.checker.standing = .apart := away .checker
  cases stands : task.checker with
  | asking tail => exact ⟨tail, rfl⟩
  | done =>
    have ended := workersDone_iff.mpr
      ⟨stands, fun kind => done_of_settled settled stopped (away kind.party)⟩
    simp [workers] at ended
  | starting => simp [stands, Checker.Rests] at resting
  | sleeping => simp [stands, Checker.Rests, stopped] at resting
  | queued | reporting => simp [stands, Checker.standing] at checker_away

/-- Once the supervisor has been told, a settled task without an attempt at work whose updates have
been taken is confirmed, and over unless the checking loop still asks a node. -/
theorem confirmed_of_settled (sound : task.Sound) (settled : task.isSettled around = true)
    (uncancelled : task.cancel = false) (told : task.supervisor.isTold = true)
    (idle : ∀ kind stage, task.attempter kind ≠ .attempting stage)
    (taken : task.outbox.slot = none) :
    task.phase = .confirmed ∧ task.inFlight = [] ∧
      (task.isOver = true ∨ ∃ tail, task.checker = .asking tail) := by
  have away := apart_of_settled sound settled idle taken
  have ending := ending_of_told settled told (away .supervisor)
  obtain ⟨phase, stopped⟩ := sound.course.ended ending
  refine ⟨?_, ?_, ?_⟩
  · obtain confirmed | ⟨-, cancelled⟩ := phase
    · exact confirmed
    · exact nomatch cancelled.symm.trans uncancelled
  · have nobody_holds : ∀ party, task.standing party ≠ .holding := by
      intro party
      rw [away party]
      nofun
    rw [inFlight_idle nobody_holds, taken]
    rfl
  · obtain joins | done := ending
    · exact .inr (asking_of_joining settled stopped joins away)
    · exact .inl (by simp [isOver, done])

/-! ## A cancellation -/

/-- The supervisor of a task that has been cancelled, when it is settled and its loops have not been
told to end, is in line to confirm. -/
theorem queued_of_running {now : Nat} (rests : task.supervisor.Rests task now)
    (consistent : task.course.Consistent) (cancelled : task.cancel = true)
    (live : task.stop = false) : task.supervisor = .queuedToConfirm := by
  have live : task.course.stop = false := live
  have position : task.course.supervisor = task.supervisor := rfl
  unfold Course.Consistent at consistent
  rw [position] at consistent
  cases stands : task.supervisor with
  | queuedToConfirm => rfl
  | starting => simp [stands, Supervisor.Rests] at rests
  | watching => simp [stands, Supervisor.Rests, cancelled] at rests
  | queuedToCancel | announcing | joining | done => simp [stands, live] at consistent

/-- In a settled task that has been cancelled, only a loop that makes attempts waits for the
consumer: it has not been told to end, its time is not up, and the consumer has no room. -/
theorem sending_of_waiting (settled : task.isSettled around = true) (cancelled : task.cancel = true)
    {party : Party} {update : Update} {deadline : Nat}
    (waiting : task.waiting? party = some (update, deadline)) :
    (∃ kind failed, task.attempter kind = .sending update failed deadline) ∧
      around.now < deadline ∧ task.stop = false ∧ task.outbox.slot.isSome = true ∧
        task.outbox.receiving = true := by
  obtain ⟨kind, rfl, ⟨stage, stands⟩ | ⟨other, failed, time, stands⟩⟩ |
    ⟨rfl, other, time, stands⟩ := works_of_holding (holding_of_waiting waiting)
  · rw [waiting_party, stands] at waiting
    cases waiting
  · have rests := attempter_rests settled kind
    rw [waiting_party, stands] at waiting
    obtain ⟨rfl, rfl⟩ := Prod.mk.inj (Option.some.inj waiting)
    rw [stands] at rests
    exact ⟨⟨kind, failed, stands⟩, rests⟩
  · have rests := supervisor_rests settled
    rw [stands] at rests
    simp [Supervisor.Rests, cancelled] at rests

/-- When a task that has been cancelled is settled, some loop waits for the consumer exactly if the
supervisor has noticed the confirmation first and is in line behind a loop that makes no attempt. -/
theorem waiting_iff_of_settled (sound : task.Sound) (settled : task.isSettled around = true)
    (cancelled : task.cancel = true) :
    (∃ party, (task.waiting? party).isSome = true) ↔
      task.supervisor = .queuedToConfirm ∧
        ∀ kind stage, task.attempter kind ≠ .attempting stage := by
  constructor
  · rintro ⟨party, waits⟩
    obtain ⟨⟨update, deadline⟩, waiting⟩ := Option.isSome_iff_exists.mp waits
    obtain ⟨⟨kind, failed, stands⟩, -, live, -⟩ := sending_of_waiting settled cancelled waiting
    refine ⟨queued_of_running (supervisor_rests settled) sound.course cancelled live, ?_⟩
    intro other stage attempts
    have works : task.standing other.party = .holding := by
      rw [standing_party, attempts]
      rfl
    have sends : task.standing kind.party = .holding := by
      rw [standing_party, stands]
      rfl
    obtain rfl := AttemptKind.party_inj.mp (sound.lock.holding_unique works sends)
    exact nomatch attempts.symm.trans stands
  · rintro ⟨queued, idle⟩
    have waits : task.standing .supervisor = .waiting := congrArg Supervisor.standing queued
    obtain ⟨other, -, holds⟩ := exists_holding_of_settled sound settled waits
    obtain ⟨kind, rfl, ⟨stage, stands⟩ | ⟨update, failed, deadline, stands⟩⟩ |
      ⟨rfl, update, deadline, stands⟩ := works_of_holding holds
    · exact absurd stands (idle kind stage)
    · exact ⟨kind.party, by rw [waiting_party, stands]; rfl⟩
    · exact absurd (queued.symm.trans stands) nofun

end Task

end Inclusion
