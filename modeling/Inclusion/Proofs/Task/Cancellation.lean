import Inclusion.Proofs.Task.Attempts

/-!
# What a task still begins after its loops have been told to end

A loop that gets the lock looks at the phase of the task before it begins an attempt, and does not
look whether it has been told to end. A cancellation tells the loops to end first and changes the
phase only when the supervisor has come to the lock. In between, a loop that is ahead of the
supervisor in the line may still begin an attempt, once; a loop that asks for the lock later comes
behind the supervisor and finds the task cancelled.
-/

namespace Inclusion.Task

variable {around : Surroundings} {task : Task} {event : Event} {turn : Turn} {kind : AttemptKind}

/-- Whether a loop of a running task waits for the lock ahead of the supervisor. -/
def isAhead (task : Task) (kind : AttemptKind) : Bool :=
  task.phase = .running ∧ task.standing kind.party = .waiting ∧
    kind.party ∈ task.lock.before .supervisor

/-- Whether loops are told to end is not taken back. -/
theorem Course.Step.stop {course next : Course} (step : Course.Step event course next)
    (stopped : course.stop = true) : next.stop = true := by
  cases step with
  | cancelSeen | confirmed => rfl
  | _ => exact stopped

/-- In a running task whose loops have been told to end, the supervisor waits for the lock. -/
theorem Course.Consistent.waits {course : Course} (consistent : course.Consistent)
    (running : course.phase = .running) (stopped : course.stop = true) :
    course.supervisor = .queuedToCancel := by
  unfold Consistent at consistent
  split at consistent <;> simp_all

/-- Whether a loop waits for the lock, as the supervisor does, and comes before it. -/
def precedes (task : Task) (party : Party) : Bool :=
  task.standing .supervisor = .waiting ∧ task.standing party = .waiting ∧
    party ∈ task.lock.before .supervisor

/-- Nobody comes before a supervisor that waits for the lock who has not come before it already. -/
theorem Move.precedes (sound : task.Sound) (move : Move around task event turn)
    (waiting : task.standing .supervisor = .waiting) {party : Party}
    (comes : turn.1.precedes party = true) : task.precedes party = true := by
  simp only [Task.precedes, decide_eq_true_eq] at comes ⊢
  obtain ⟨waiting_after, waits_after, before_after⟩ := comes
  refine ⟨waiting, ?_⟩
  have present : .supervisor ∈ task.lock.line := by
    rw [sound.lock.present, waiting]
    nofun
  cases move.lockChange sound.lock with
  | kept lock standing => exact ⟨standing ▸ waits_after, lock ▸ before_after⟩
  | asked other away lock standing =>
    rw [lock, Lock.before_request sound.lock.free present] at before_after
    refine ⟨?_, before_after⟩
    have asks : party ≠ other := by
      rintro rfl
      have absent : party ∉ task.lock.line := by simp [sound.lock.present, away]
      exact absent (List.takeWhile_subset _ before_after)
    rwa [standing, Function.update_of_ne asks] at waits_after
  | took other held entitled lock standing =>
    refine ⟨?_, lock ▸ before_after⟩
    have takes : party ≠ other := by
      rintro rfl
      rw [standing, Function.update_self] at waits_after
      cases waits_after
    rwa [standing, Function.update_of_ne takes] at waits_after
  | gave other held lock standing =>
    have gives : other ≠ .supervisor := by
      rintro rfl
      simp [standing] at waiting_after
    have leaves : party ≠ other := by
      rintro rfl
      rw [standing, Function.update_self] at waits_after
      cases waits_after
    rw [lock] at before_after
    refine ⟨?_, ?_⟩
    · rwa [standing, Function.update_of_ne leaves] at waits_after
    · rw [Lock.before_release held gives]
      exact List.mem_cons_of_mem _ before_after

/-- Nobody comes ahead of a supervisor that waits to cancel. -/
theorem Move.isAhead (sound : task.Sound) (move : Move around task event turn)
    (stopped : task.stop = true) (ahead : turn.1.isAhead kind = true) :
    task.isAhead kind = true := by
  simp only [Task.isAhead, decide_eq_true_eq] at ahead ⊢
  obtain ⟨running_after, waits_after, before_after⟩ := ahead
  have waiting_after : turn.1.standing .supervisor = .waiting := by
    have queued := (sound.step move).course.waits running_after (move.course.stop stopped)
    exact congrArg Supervisor.standing queued
  have running : task.phase = .running := by
    obtain same | ⟨-, served⟩ := move.course.phase
    · exact same.symm.trans running_after
    · exact absurd waiting_after served
  have waiting : task.standing .supervisor = .waiting :=
    congrArg Supervisor.standing (sound.course.waits running stopped)
  have precedes := @Move.precedes _ _ _ _ sound move waiting kind.party
    (decide_eq_true ⟨waiting_after, waits_after, before_after⟩)
  exact ⟨running, (of_decide_eq_true precedes).2⟩

/-- Whoever begins an attempt has been ahead of the supervisor, and is so no longer. -/
theorem Move.began_ahead (move : Move around task event turn) (began : .began kind ∈ turn.2) :
    task.isAhead kind = true ∧ turn.1.isAhead kind = false := by
  obtain ⟨-, stands, held, running, -, rfl⟩ := move.began_inv began
  have first : kind.party ∈ task.lock.before .supervisor := by
    rw [Lock.before_release held kind.party_ne_supervisor]
    exact List.mem_cons_self
  have waits : task.standing kind.party = .waiting := by
    rw [standing_party, stands]
    rfl
  obtain ⟨stage, role, request, begun⟩ := begin_shape task kind
  refine ⟨by simp only [Task.isAhead, running, waits, first, and_self, decide_true], ?_⟩
  simp [Task.isAhead, begun, Attempter.standing]

/-- A loop ahead of the supervisor that gets the lock and finds an attempt due begins it. -/
theorem Move.began_of_isAhead (move : Move around task (.granted kind.party) turn)
    (ahead : task.isAhead kind = true) (due : task.isDue around.now kind = true) :
    .began kind ∈ turn.2 := by
  simp only [Task.isAhead, decide_eq_true_eq] at ahead
  obtain ⟨running, -, -⟩ := ahead
  have begun : ∀ event, Move around task event turn → event = .granted kind.party →
      .began kind ∈ turn.2 := by
    intro event move granted
    cases move with
    | @began other stands held =>
      obtain rfl : other = kind := AttemptKind.party_inj.mp (Event.granted.inj granted)
      obtain ⟨stage, role, request, begun⟩ := begin_shape task other
      rw [begun]
      exact List.mem_cons_self
    | retired stands held past => exact absurd running past
    | @deferred other stands held still early =>
      obtain rfl : other = kind := AttemptKind.party_inj.mp (Event.granted.inj granted)
      simp [due] at early
    | _ => cases kind <;> cases granted
  exact begun _ move rfl

/-- At a step, an attempt begins in exchange for a place ahead of the supervisor. -/
theorem Move.begins_le (kind : AttemptKind) (sound : task.Sound)
    (move : Move around task event turn) (stopped : task.stop = true) :
    begins kind turn.2 + (turn.1.isAhead kind).toNat ≤ (task.isAhead kind).toNat := by
  by_cases began : .began kind ∈ turn.2
  · obtain ⟨before, after⟩ := move.began_ahead began
    have once : begins kind turn.2 = 1 := by
      obtain ⟨-, -, -, -, -, rfl⟩ := move.began_inv began
      obtain ⟨stage, role, request, begun⟩ := begin_shape task kind
      simp [begins, begun]
    rw [once, before, after]
    exact Nat.le_refl _
  · have never : begins kind turn.2 = 0 := List.count_eq_zero.mpr began
    rw [never, Nat.zero_add]
    cases after : turn.1.isAhead kind with
    | false => exact Nat.zero_le _
    | true => exact Nat.le_of_eq (by rw [move.isAhead sound stopped after])

/-- So at most one attempt of a kind begins after the loops have been told to end, and only if its
loop was ahead of the supervisor by then. -/
theorem Run.begins_le (kind : AttemptKind) {start final : Task} {entries : List Entry}
    (run : Run start entries final) (sound : start.Sound) (stopped : start.stop = true) :
    begins kind (seen entries) + (final.isAhead kind).toNat ≤ (start.isAhead kind).toNat := by
  induction run with
  | refl => simp [begins]
  | @step entries task around event next effects prior move inductionHypothesis =>
    have still : task.stop = true :=
      prior.preserves (fun move stopped => move.course.stop stopped) stopped
    have step := move.begins_le kind (prior.sound sound) still
    simp only [seen_append, seen_single, begins, List.count_append] at *
    omega

/-- A loop that neither makes an attempt nor is ahead of the supervisor when the loops are told to
end calls no node any more. -/
theorem Run.no_calls {start final : Task} {entries : List Entry} (run : Run start entries final)
    (sound : start.Sound) (stopped : start.stop = true) (behind : start.isAhead kind = false)
    (idle : start.isAttempting kind = false) :
    (∀ role request, .call kind.party role request ∉ seen entries) ∧
      final.isAttempting kind = false := by
  have none_began : .began kind ∉ seen entries := by
    have bound := run.begins_le kind sound stopped
    rw [behind, Bool.toNat_false, Nat.le_zero, Nat.add_eq_zero_iff] at bound
    exact List.count_eq_zero.mp bound.1
  induction run with
  | refl => exact ⟨by simp, idle⟩
  | @step entries task around event next effects prior move inductionHypothesis =>
    rw [seen_append, seen_single, List.mem_append, not_or] at none_began
    obtain ⟨silent, still⟩ := inductionHypothesis none_began.1
    have unbegun : task.isAttempting kind = true ∨ .began kind ∈ effects → False := by
      rintro (attempts | began)
      · simp [still] at attempts
      · exact none_began.2 began
    refine ⟨?_, eq_false_of_ne_true fun attempts => unbegun (move.isAttempting attempts)⟩
    intro role request calls
    rw [seen_append, seen_single, List.mem_append] at calls
    obtain before | now := calls
    · exact silent role request before
    · exact unbegun (move.call_inv now)

/-- Only a supervisor that was to cancel, and has come to the lock, asks for the watch to be
removed. -/
theorem Move.forgets_inv (move : Move around task event turn)
    (forgets : .forgetStopwatch ∈ turn.2) :
    event = .granted .supervisor ∧ task.supervisor = .queuedToCancel := by
  have rests : ∀ task : Task, .forgetStopwatch ∉ (task.restChecker around).2 := by
    intro task
    obtain silent | ended := restChecker_effects task around
    · simp [silent]
    · simp [ended]
  cases move with
  | cancelled stands => exact ⟨rfl, stands⟩
  | @began kind =>
    obtain ⟨stage, role, request, begun⟩ := begin_shape task kind
    simp [begun] at forgets
  | answered stands answered => cases answered.progress <;> simp at forgets
  | judged =>
    obtain ⟨⟨⟩⟩ | forgets := List.mem_cons.mp forgets
    exact absurd forgets (rests _)
  | checkFailed => exact absurd forgets (rests task)
  | _ => simp [register, confirm, leaveChecker] at forgets

end Inclusion.Task
