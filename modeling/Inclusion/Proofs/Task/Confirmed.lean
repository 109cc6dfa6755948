import Inclusion.Proofs.Task.Reports

/-!
# What a task knows of the confirmation of its bundle

A task has heard of the confirmation if its supervisor has been signalled it, or has gone on to
confirm. It hears of it by a signal and in no other way, and puts the last update before its
consumer only when it has heard of it.
-/

namespace Inclusion.Task

/-- Whether a task has heard that its bundle is confirmed. -/
def HasHeard (task : Task) : Prop :=
  task.phase = .confirmed ∨ task.supervisor = .queuedToConfirm ∨
    ∃ ticket, task.supervisor = .watching ticket (some .fired)

variable {around : Surroundings} {task : Task} {event : Event} {turn : Turn}

/-- A new task has heard nothing. -/
theorem not_hasHeard_start (setup : Setup) (tail : Transaction) (trytes : List String)
    (now forced : Nat) : ¬(Task.start setup tail trytes now forced).HasHeard := by
  rintro (phase | stands | ⟨ticket, stands⟩)
  · cases phase
  · cases stands
  · cases stands

theorem HasHeard.of_course {other : Task} (same : other.course = task.course)
    (heard : other.HasHeard) : task.HasHeard := by
  have supervisor : other.supervisor = task.supervisor := congrArg Course.supervisor same
  have phase : other.phase = task.phase := congrArg Course.phase same
  rwa [HasHeard, supervisor, phase] at heard

/-- A task hears of the confirmation by a signal. -/
theorem Move.hasHeard (move : Move around task event turn) (heard : turn.1.HasHeard) :
    task.HasHeard ∨ ∃ ticket, event = .signalled ticket .fired := by
  cases other : event.isForEnd with
  | false => exact .inl (heard.of_course (move.course_kept other))
  | true =>
    cases move with
    | @entered kind | @woke kind | @recovered kind | @haltedAsleep kind | @retired kind
    | @began kind | @deferred kind | @answered kind | @sent kind | @timedOut kind
    | @haltedSending kind | @refused kind =>
      exact absurd (of_decide_eq_true other) kind.party_ne_supervisor
    | @signalled ticket signal =>
      obtain phase | stands | ⟨number, stands⟩ := heard
      · exact .inl (.inl phase)
      · cases stands
      · obtain ⟨-, ⟨⟩⟩ := Supervisor.watching.inj stands
        exact .inr ⟨ticket, rfl⟩
    | confirmSeen stands => exact .inl (.inr (.inr ⟨_, stands⟩))
    | confirmed stands => exact .inl (.inr (.inl stands))
    | cancelled =>
      obtain phase | stands | ⟨number, stands⟩ := heard
      · cases phase
      · cases stands
      · cases stands
    | registered | dropSeen | cancelSeen | announced | announceTimedOut | announceCancelled
    | announceRefused | joined =>
      obtain phase | stands | ⟨number, stands⟩ := heard
      · exact .inl (.inl phase)
      · cases stands
      · cases stands
    | cancelRequested => exact .inl heard
    | _ => cases other

/-- An update that is delivered was in flight. -/
theorem Flow.mem_inFlight (flow : Flow around task event turn) {update : Update}
    (taken : .delivered update ∈ turn.2) : update ∈ task.inFlight := by
  have received : update ∈ received turn.2 := List.mem_filterMap.mpr ⟨_, taken, rfl⟩
  cases flow with
  | delivers other fewer none_offered one_received =>
    rw [one_received] at received
    obtain rfl := List.mem_singleton.mp received
    simp [fewer]
  | kept same none_offered none_received | lost loss fewer none_offered none_received
  | offers other more one_offered none_received => simp [none_received] at received

/-- The last update is on its way only in a task that is confirmed. -/
theorem Run.confirmed_of_inFlight {start final : Task} {entries : List Entry}
    (run : Run start entries final) (sound : start.Sound) (running : start.phase = .running)
    (empty : start.inFlight = []) {update : Update}
    (flies : update ∈ received (seen entries) ++ final.inFlight)
    (last : update.kind = .confirm) : final.phase = .confirmed := by
  have offers : update ∈ offered (seen entries) := by
    simpa [empty] using (run.flow_sublist sound).subset flies
  obtain ⟨earlier, others, all⟩ := run.offered_closing sound running
  have message : update.message ∈ earlier ++ closing final.phase :=
    all ▸ List.mem_map_of_mem (f := Update.message) offers
  obtain before | closes := List.mem_append.mp message
  · exact absurd last (others update.message before)
  · by_contra unconfirmed
    rw [closing, if_neg unconfirmed] at closes
    cases closes

end Inclusion.Task
