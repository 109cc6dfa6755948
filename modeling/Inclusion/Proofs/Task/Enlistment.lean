import Inclusion.Proofs.Task.Teardown

/-!
# What a task has to do with the monitor

The supervisor of a task registers when it begins, and again when it has noticed that somebody else
removed its registration. It withdraws when it notices a cancellation while it still stands by a
registration. No other step of a task asks the monitor for anything, and a supervisor that is on its
way to the end does not come back to registering.
-/

namespace Inclusion.Task

/-- Whether an effect is a request to the monitor. -/
def Effect.isForMonitor : Effect → Bool
  | watch | unwatch _ => true
  | _ => false

/-- What a step of a task is to the registrations of its supervisor. -/
inductive Enlists (around : Surroundings) (task : Task) : Event → Turn → Prop where
  | registered {event} (own : event = .entered .supervisor ∨ event = .dropSeen)
      (free : task.supervisor = .starting ∨
        ∃ ticket, task.supervisor = .watching ticket (some .dropped)) :
      Enlists around task event (task.register around)
  | withdrew {ticket signal next} (stands : task.supervisor = .watching ticket signal)
      (cancelled : task.cancel = true) (ends : next.supervisor.isEnding = true) :
      Enlists around task .cancelSeen (next, [.unwatch ticket])
  | signalled {ticket signal} (stands : task.supervisor = .watching ticket none) :
      Enlists around task (.signalled ticket signal)
        ({ task with supervisor := .watching ticket (some signal) }, [])
  /-- The monitor is asked for nothing. The supervisor stays where it is, or goes on to its end
  without a registration that it could leave behind. -/
  | apart {event turn} (silent : ∀ effect ∈ turn.2, effect.isForMonitor = false)
      (goes : turn.1.supervisor = task.supervisor ∨ turn.1.supervisor.isEnding = true ∧
        (task.supervisor.isEnding = true ∨
          ∃ ticket, task.supervisor = .watching ticket (some .fired))) :
      Enlists around task event turn

variable {around : Surroundings} {task : Task} {event : Event} {turn : Turn}

theorem restChecker_isForMonitor (task : Task) (around : Surroundings) :
    ∀ effect ∈ (task.restChecker around).2, effect.isForMonitor = false := by
  obtain none_seen | left := restChecker_effects task around
  · simp [none_seen]
  · simp [left, Effect.isForMonitor]

/-- What does not concern the end of a task does not concern the monitor. -/
theorem Move.silent_of_other (move : Move around task event turn)
    (other : event.isForEnd = false) : ∀ effect ∈ turn.2, effect.isForMonitor = false := by
  cases move with
  | @began kind =>
    obtain ⟨stage, role, request, begun⟩ := begin_shape task kind
    simp [begun, Effect.isForMonitor]
  | answered stands answered =>
    cases answered.progress with
    | called | reported | unreported | brokeOff => simp [Effect.isForMonitor]
  | judged =>
    intro effect member
    obtain rfl | member := List.mem_cons.mp member
    · rfl
    · exact restChecker_isForMonitor _ around effect member
  | checkFailed => exact restChecker_isForMonitor task around
  | entered | woke | recovered | haltedAsleep | retired | deferred | sent | timedOut | haltedSending
  | refused | checkerEntered | checkerWoke | checkerHalted | checkerRetired | asked | checkAnswered
  | received | streamDropped => simp [leaveChecker, Effect.isForMonitor]
  | _ => cases other

/-- Every step of a task is one of the four. -/
theorem Move.enlists (move : Move around task event turn) : Enlists around task event turn := by
  cases other : event.isForEnd with
  | false =>
    have kept : turn.1.supervisor = task.supervisor :=
      congrArg Course.supervisor (move.course_kept other)
    exact .apart (move.silent_of_other other) (.inl kept)
  | true =>
    cases move with
    | registered stands => exact .registered (.inl rfl) (.inl stands)
    | dropSeen stands => exact .registered (.inr rfl) (.inr ⟨_, stands⟩)
    | signalled stands => exact .signalled stands
    | cancelSeen stands cancelled => exact .withdrew stands cancelled rfl
    | confirmSeen stands => exact .apart (by simp) (.inr ⟨rfl, .inr ⟨_, stands⟩⟩)
    | confirmed stands | cancelled stands | announced stands | announceTimedOut stands
    | announceCancelled stands | announceRefused stands | joined stands =>
      have ending : task.supervisor.isEnding = true := by rw [stands]; rfl
      exact .apart (by simp [confirm, Effect.isForMonitor]) (.inr ⟨rfl, .inl ending⟩)
    | cancelRequested => exact .apart (by simp) (.inl rfl)
    | @entered kind | @woke kind | @recovered kind | @haltedAsleep kind | @retired kind
    | @began kind | @deferred kind | @answered kind | @sent kind | @timedOut kind
    | @haltedSending kind | @refused kind =>
      exact absurd (of_decide_eq_true other) kind.party_ne_supervisor
    | _ => cases other

/-- A settled task that is not to end stands by a registration. -/
theorem watching_of_settled (sound : task.Sound) (settled : task.isSettled around = true)
    (wanted : task.isCalledOff = false) : ∃ ticket, task.supervisor = .watching ticket none := by
  have rests := supervisor_rests settled
  simp only [isCalledOff, Bool.or_eq_false_iff] at wanted
  obtain ⟨untold, uncancelled⟩ := wanted
  cases stands : task.supervisor with
  | starting => simp [stands, Supervisor.Rests] at rests
  | watching ticket signal =>
    rw [stands] at rests
    exact ⟨ticket, by rw [rests.1]⟩
  | queuedToConfirm | announcing | joining | done => simp [stands, Supervisor.isTold] at untold
  | queuedToCancel =>
    have course : task.course.Consistent := sound.course
    rw [Course.Consistent, show task.course.supervisor = _ from stands] at course
    cases uncancelled.symm.trans course.2.2

end Inclusion.Task
