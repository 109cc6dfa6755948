import Inclusion.Proofs.Task.Attempts

/-!
# What is offered to the consumer

Until a task is confirmed nothing but reports of attempts is offered, each when its attempt ends;
then the confirmation is offered, and nothing after it. An attempt that ends goes unreported only
in a task that is being stopped, and a task that nobody has cancelled is stopped in no other way
than by its confirmation, when no attempt is at work. So in a task that is not cancelled, what is
offered are exactly the reports of the attempts that have ended, in order, and the confirmation if
there has been one.

An attempt can also break off: it has succeeded, but the moment of the next one of its kind does
not exist. Nothing is reported of it.
-/

namespace Inclusion.Task

variable {around : Surroundings} {task : Task} {event : Event} {turn : Turn}

/-- What the last update says. -/
def lastMessage : UpdateKind × Option String :=
  (.confirm, none)

/-- What a step adds to what is offered and to what is to be said of attempts. -/
inductive Saying (task next : Task) (effects : List Effect) : Prop where
  | nothing (none_offered : offered effects = []) (none_ended : reports effects = [])
      (phase : next.phase = .confirmed ↔ task.phase = .confirmed)
  /-- An attempt ends and is reported. -/
  | reported (kind : AttemptKind) (error : Option ConfirmerError) (update : Update)
      (message : update.message = kind.message error) (running : task.phase = .running)
      (phase : next.phase = task.phase) (one_offered : offered effects = [update])
      (one_ended : reports effects = [kind.message error])
  /-- An attempt ends while the task is being stopped. -/
  | unreported (stopped : task.stop = true) (running : task.phase = .running)
      (phase : next.phase = task.phase) (none_offered : offered effects = [])
  | confirmed (update : Update) (message : update.message = lastMessage)
      (running : task.phase = .running) (phase : next.phase = .confirmed)
      (one_offered : offered effects = [update]) (none_ended : reports effects = [])

theorem outcome_message (task : Task) (kind : AttemptKind) (error : Option ConfirmerError) :
    (task.outcome kind error).message = kind.message error := by
  cases error <;> rfl

/-- Nobody makes an attempt in a task that is over. -/
theorem Sound.running_of_attempting (sound : task.Sound) {kind : AttemptKind}
    (holds : (task.attempter kind).standing = .holding) : task.phase = .running := by
  by_contra past
  exact sound.quiet past kind holds

/-- Every step says one of these things. -/
theorem Move.saying (sound : task.Sound) (move : Move around task event turn) :
    Saying task turn.1 turn.2 := by
  by_cases granted : event = .granted .supervisor
  · have course : task.course.Consistent := sound.course
    cases move with
    | confirmed stands =>
      rw [Course.Consistent, show task.course.supervisor = _ from stands] at course
      exact .confirmed _ rfl course.1 rfl rfl rfl
    | cancelled stands =>
      rw [Course.Consistent, show task.course.supervisor = _ from stands] at course
      have running : task.phase = .running := course.1
      exact .nothing rfl rfl (by simp [running])
    | @retired kind | @began kind | @deferred kind =>
      exact absurd (Event.granted.inj granted) kind.party_ne_supervisor
    | _ => cases granted
  · have phase : turn.1.phase = task.phase := move.course.phase_eq granted
    have silent : offered turn.2 = [] → reports turn.2 = [] → Saying task turn.1 turn.2 := by
      intro none_offered none_ended
      exact .nothing none_offered none_ended (by rw [phase])
    cases move with
    | @began kind =>
      obtain ⟨stage, role, request, begun⟩ := begin_shape task kind
      exact silent (by rw [begun]; rfl) (by rw [begun]; rfl)
    | answered stands answered =>
      have running := sound.running_of_attempting (by rw [stands]; rfl)
      cases answered.progress with
      | called | brokeOff => exact silent rfl rfl
      | reported => exact .reported _ _ _ (outcome_message _ _ _) running phase rfl rfl
      | unreported kin past =>
        have stopped : task.stop = true := by simpa [running] using past
        exact .unreported stopped running phase rfl
    | @judged tail promotable =>
      obtain ⟨none_offered, -, none_ended⟩ :=
        restChecker_silent (task.noteVerdict tail promotable).unlock around
      exact silent none_offered none_ended
    | checkFailed =>
      obtain ⟨none_offered, -, none_ended⟩ := restChecker_silent task around
      exact silent none_offered none_ended
    | confirmed | cancelled => exact absurd rfl granted
    | _ => exact silent rfl rfl

/-- A cancellation is not taken back. -/
theorem Course.Step.cancel {course next : Course} (step : Course.Step event course next)
    (cancelled : course.cancel = true) : next.cancel = true := by
  cases step with
  | cancelRequested => rfl
  | _ => exact cancelled

/-- A task that is being stopped but not cancelled has been confirmed. -/
theorem Sound.confirmed_of_stop (sound : task.Sound) (stopped : task.stop = true)
    (uncancelled : task.cancel = false) : task.phase = .confirmed := by
  have course : task.course.Consistent := sound.course
  have stopped : task.course.stop = true := stopped
  have uncancelled : task.course.cancel = false := uncancelled
  unfold Course.Consistent at course
  split at course
  case h_4 => simp [course.2.2] at uncancelled
  case h_5 => exact course.1
  case h_6 | h_7 => exact course.1.resolve_right fun past => by simp [past.2] at uncancelled
  all_goals simp [course.2] at stopped

/-! ## Over a run -/

/-- The last update has been offered exactly if the task is confirmed. -/
def closing (phase : Phase) : List (UpdateKind × Option String) :=
  if phase = .confirmed then [lastMessage] else []

theorem closing_length_le (phase : Phase) : (closing phase).length ≤ 1 := by
  unfold closing
  split <;> simp

/-- Before the confirmation nothing like it is offered, and after it nothing at all. -/
theorem Run.offered_closing {start final : Task} {entries : List Entry}
    (run : Run start entries final) (sound : start.Sound) (running : start.phase = .running) :
    ∃ earlier : List (UpdateKind × Option String), (∀ message ∈ earlier, message.1 ≠ .confirm) ∧
      (offered (seen entries)).map Update.message = earlier ++ closing final.phase := by
  induction run with
  | refl => exact ⟨[], nofun, by simp [offered, closing, running]⟩
  | @step entries task around event next effects prior move inductionHypothesis =>
    obtain ⟨earlier, others, offers⟩ := inductionHypothesis
    have saying : Saying task next effects := move.saying (prior.sound sound)
    simp only [seen_append, seen_single, offered_append, List.map_append, offers]
    cases saying with
    | nothing none_offered none_ended phase =>
      exact ⟨earlier, others, by simp [none_offered, closing, phase]⟩
    | reported kind error update message running phase one_offered one_ended =>
      refine ⟨earlier ++ [kind.message error], ?_, ?_⟩
      · intro other member
        obtain before | rfl := List.mem_append.mp member |>.imp_right List.mem_singleton.mp
        · exact others other before
        · exact kind.message_ne_confirm error
      · simp [one_offered, closing, phase, running, message]
    | unreported stopped running phase none_offered =>
      exact ⟨earlier, others, by simp [none_offered, closing, phase]⟩
    | confirmed update message running phase one_offered none_ended =>
      exact ⟨earlier, others, by simp [one_offered, closing, phase, running, message]⟩

/-- In a run without a cancellation every attempt that ends is reported, in order. -/
theorem Run.offered_reports {start final : Task} {entries : List Entry}
    (run : Run start entries final) (sound : start.Sound) (running : start.phase = .running)
    (uncancelled : final.cancel = false) :
    (offered (seen entries)).map Update.message =
      reports (seen entries) ++ closing final.phase := by
  induction run with
  | refl => simp [offered, reports, closing, running]
  | @step entries task around event next effects prior move inductionHypothesis =>
    have before : task.cancel = false := by
      by_contra cancelled
      have after : next.cancel = true := move.course.cancel (eq_true_of_ne_false cancelled)
      simp [after] at uncancelled
    have offers := inductionHypothesis before
    have sound := prior.sound sound
    simp only [seen_append, seen_single, offered_append, reports_append, List.map_append, offers]
    have saying : Saying task next effects := move.saying sound
    cases saying with
    | nothing none_offered none_ended phase =>
      simp [none_offered, none_ended, closing, phase]
    | reported kind error update message running phase one_offered one_ended =>
      simp [one_offered, one_ended, closing, phase, running, message]
    | unreported stopped running phase none_offered =>
      have confirmed := sound.confirmed_of_stop stopped before
      simp [running] at confirmed
    | confirmed update message running phase one_offered none_ended =>
      simp [one_offered, none_ended, closing, phase, running, message]

/-! ## What the consumer receives -/

/-- A part of what is offered, in order, ends with its first confirmation. -/
theorem ends_with_confirmation {updates all : List Update} {phase : Phase}
    {earlier : List (UpdateKind × Option String)} (part : updates.Sublist all)
    (others : ∀ message ∈ earlier, message.1 ≠ .confirm)
    (offers : all.map Update.message = earlier ++ closing phase) {before after : List Update}
    {update : Update} (split : updates = before ++ update :: after)
    (terminal : update.isTerminal = true) : after = [] := by
  have short := closing_length_le phase
  have messages := offers ▸ part.map Update.message
  obtain ⟨first, last, split_messages, early, late⟩ := List.sublist_append_iff.mp messages
  have last_short := late.length_le
  rw [split, List.map_append, List.map_cons] at split_messages
  have unlike : update.message ∉ first := by
    intro member
    have last : update.message.1 = .confirm := by
      simpa [Update.isTerminal, Update.message] using terminal
    exact others _ (early.subset member) last
  obtain ⟨middle, placed, rest⟩ | ⟨middle, -, rest⟩ := List.append_eq_append_iff.mp split_messages
  · cases middle with
    | nil =>
      have lengths := congrArg List.length rest
      simp only [List.length_cons, List.length_map, List.nil_append] at lengths
      exact List.length_eq_zero_iff.mp (by omega)
    | cons head tail =>
      obtain rfl : update.message = head := (List.cons.inj rest).1
      exact absurd (placed ▸ List.mem_append_right _ List.mem_cons_self) unlike
  · have lengths := congrArg List.length rest
    simp only [List.length_cons, List.length_map, List.length_append] at lengths
    exact List.length_eq_zero_iff.mp (by omega)

/-- Such a part has at most one confirmation. -/
theorem one_confirmation {updates all : List Update} {phase : Phase}
    {earlier : List (UpdateKind × Option String)} (part : updates.Sublist all)
    (others : ∀ message ∈ earlier, message.1 ≠ .confirm)
    (offers : all.map Update.message = earlier ++ closing phase) :
    updates.countP Update.isTerminal ≤ 1 := by
  let confirms : UpdateKind × Option String → Bool := fun message => message.1 = .confirm
  have none_early : earlier.countP confirms = 0 := by
    simpa [List.countP_eq_zero, confirms] using others
  calc updates.countP Update.isTerminal
    _ ≤ all.countP Update.isTerminal := part.countP_le
    _ = (all.map Update.message).countP confirms := by rw [List.countP_map]; rfl
    _ = (closing phase).countP confirms := by
      rw [offers, List.countP_append, none_early, Nat.zero_add]
    _ ≤ (closing phase).length := List.countP_le_length
    _ ≤ 1 := closing_length_le phase

/-! ## Runs in which nothing is lost -/

/-- A consumer who has gone does not come back. -/
theorem Move.receiving (move : Move around task event turn)
    (receiving : turn.1.outbox.receiving = true) :
    task.outbox.receiving = true ∧ event ≠ .streamDropped := by
  refine ⟨?_, ?_⟩
  · have same : turn.1.outbox = task.outbox → task.outbox.receiving = true :=
      fun same => same ▸ receiving
    cases move with
    | answered stands answered =>
      cases answered.progress with
      | called kin | reported kin | unreported kin | brokeOff kin =>
        exact same (by simp [kin.outbox])
    | @began kind =>
      obtain ⟨stage, role, request, begun⟩ := begin_shape task kind
      exact same (by simp [begun])
    | judged =>
      exact same ((frame_restChecker _ around).2.2.1.trans (kin_noteVerdict _ _ _).outbox)
    | checkFailed => exact same (frame_restChecker task around).2.2.1
    | entered | woke | recovered | haltedAsleep | retired | deferred =>
      exact same (by simp [sleep])
    | timedOut | haltedSending | refused => exact same (frame_afterReport _ _ _ _).2.2.1
    | sent stands room present | announced stands room present => exact present
    | received ready present => exact present
    | streamDropped => cases receiving
    | _ => exact same rfl
  · rintro rfl
    cases move
    cases receiving

/-- Whether no loop has waited with an update for as long as it may. -/
def isPunctual (task : Task) (now : Nat) : Bool :=
  parties.all fun party => (task.waiting? party).all fun waits => now < waits.2

theorem deadline_of_punctual {now : Nat} (punctual : task.isPunctual now = true) {party : Party}
    {update : Update} {deadline : Nat} (waiting : task.waiting? party = some (update, deadline)) :
    now < deadline := by
  have listed : party ∈ parties := by cases party <;> decide
  have early := List.all_eq_true.mp punctual party listed
  simpa [waiting] using early

/-- Unless its consumer goes away or a loop waits too long, a task that is not cancelled loses
nothing. -/
theorem Sound.no_loss (sound : task.Sound) (uncancelled : task.cancel = false)
    (receiving : task.outbox.receiving = true) (attended : event ≠ .streamDropped)
    (punctual : ∀ party, event = .elapsed party → task.isPunctual around.now = true) :
    ¬Loss around task event := by
  intro loss
  cases loss with
  | late waiting due =>
    exact Nat.not_lt_of_le due (deadline_of_punctual (punctual _ rfl) waiting)
  | halted holds stopped =>
    have confirmed := sound.confirmed_of_stop stopped uncancelled
    exact sound.quiet (by simp [confirmed]) _ holds
  | refused gone => simp [receiving] at gone
  | cancelled cancelled => simp [uncancelled] at cancelled
  | dropped => exact attended rfl

/-- In a run that is not cancelled, whose consumer stays and takes every update in time, nothing is
lost. -/
theorem Run.no_loss {start final : Task} {entries : List Entry} (run : Run start entries final)
    (sound : start.Sound) (uncancelled : final.cancel = false)
    (receiving : final.outbox.receiving = true)
    (punctual : ∀ entry ∈ entries, ∀ party, entry.event = .elapsed party →
      entry.before.isPunctual entry.around.now = true) :
    ∀ entry ∈ entries, ¬Loss entry.around entry.before entry.event := by
  induction run with
  | refl => simp
  | @step entries task around event next effects prior move inductionHypothesis =>
    have before : task.cancel = false := by
      by_contra cancelled
      have after : next.cancel = true := move.course.cancel (eq_true_of_ne_false cancelled)
      simp [after] at uncancelled
    obtain ⟨stays, attended⟩ := move.receiving receiving
    have earlier := inductionHypothesis before stays fun entry member =>
      punctual entry (List.mem_append_left _ member)
    intro entry member
    obtain before_last | last := List.mem_append.mp member
    · exact earlier entry before_last
    · obtain rfl := List.mem_singleton.mp last
      exact (prior.sound sound).no_loss before stays attended (punctual _ member)

/-! ## Tasks that are over -/

/-- A supervisor that has ended stays where it is. -/
theorem Course.Step.over {course next : Course} (step : Course.Step event course next)
    (past : course.supervisor = .done) : next.supervisor = .done := by
  cases step with
  | kept | cancelRequested => exact past
  | registered stands => rcases stands with rfl | ⟨_, rfl⟩ <;> cases past
  | signalled | confirmSeen | cancelSeen | confirmed | cancelled | announced | joined => cases past

/-- The supervisor ends by noticing that the other loops have ended, and in no other way. -/
theorem Course.Step.joined_of_over {course next : Course} (step : Course.Step event course next)
    (past : next.supervisor = .done) : course.supervisor = .done ∨ event = .joined := by
  cases step with
  | kept | cancelRequested => exact .inl past
  | joined => exact .inr rfl
  | registered | signalled | confirmSeen | cancelSeen | confirmed | cancelled | announced =>
    cases past

/-- A task stays over. -/
theorem Move.isOver (move : Move around task event turn) (past : task.isOver = true) :
    turn.1.isOver = true :=
  decide_eq_true (move.course.over (of_decide_eq_true past))

/-- That all loops have ended is told exactly when a task comes to its end. -/
theorem Move.finished_iff (move : Move around task event turn) :
    .finished ∈ turn.2 ↔ task.isOver = false ∧ turn.1.isOver = true := by
  constructor
  · intro finished
    cases move with
    | joined stands => exact ⟨by simp [Task.isOver, stands], rfl⟩
    | @began kind =>
      obtain ⟨stage, role, request, begun⟩ := begin_shape task kind
      simp [begun] at finished
    | answered stands answered => cases answered.progress <;> simp at finished
    | @judged tail promotable =>
      rcases restChecker_effects (task.noteVerdict tail promotable).unlock around with
        silent | ended
      · simp [silent] at finished
      · simp [ended] at finished
    | checkFailed =>
      rcases restChecker_effects task around with silent | ended
      · simp [silent] at finished
      · simp [ended] at finished
    | _ => simp [register, leaveChecker, confirm] at finished
  · rintro ⟨unfinished, past⟩
    obtain done | rfl := move.course.joined_of_over (of_decide_eq_true past)
    · exact absurd done (of_decide_eq_false unfinished)
    · cases move with
      | joined => simp

theorem Sound.over_not_running (sound : task.Sound) (past : task.supervisor = .done) :
    task.phase ≠ .running := by
  intro running
  obtain ⟨confirmed | ⟨cancelled, -⟩, -⟩ := sound.course.ended (.inr past)
  · exact nomatch running.symm.trans confirmed
  · exact nomatch running.symm.trans cancelled

/-- Nothing but the slot is in flight in a task that is over. -/
theorem Sound.inFlight_of_over (sound : task.Sound) (past : task.supervisor = .done) :
    task.inFlight = task.outbox.slot.toList := by
  have quiet := sound.quiet (sound.over_not_running past)
  refine inFlight_idle fun party => ?_
  cases party with
  | checker => exact task.checker.standing_ne_holding
  | promoter => exact quiet .promotion
  | reattacher => exact quiet .reattachment
  | supervisor => simp [standing, past, Supervisor.standing]

/-- Nothing is offered by a task that is over. -/
theorem Run.over {start final : Task} {entries : List Entry} (run : Run start entries final)
    (sound : start.Sound) (past : start.supervisor = .done) :
    offered (seen entries) = [] ∧ final.supervisor = .done := by
  induction run with
  | refl => exact ⟨rfl, past⟩
  | @step entries task around event next effects prior move inductionHypothesis =>
    obtain ⟨none_offered, ended⟩ := inductionHypothesis
    have idle := (prior.sound sound).over_not_running ended
    have saying : Saying task next effects := move.saying (prior.sound sound)
    refine ⟨?_, move.course.over ended⟩
    rw [seen_append, offered_append, none_offered, seen_single]
    cases saying with
    | nothing none_more => exact none_more
    | unreported stopped running | reported kind error update message running
    | confirmed update message running => exact absurd running idle

/-! ## The settings of a task -/

/-- A task keeps its settings. -/
theorem Move.setup (move : Move around task event turn) : turn.1.setup = task.setup := by
  cases move with
  | answered stands answered =>
    cases answered.progress with
    | called kin | reported kin | unreported kin | brokeOff kin => simp [kin.setup]
  | @began kind =>
    obtain ⟨stage, role, request, begun⟩ := begin_shape task kind
    simp [begun]
  | judged => exact (frame_restChecker _ around).2.2.2.1.trans (kin_noteVerdict _ _ _).setup
  | checkFailed => exact (frame_restChecker task around).2.2.2.1
  | entered | woke | recovered | haltedAsleep | retired | deferred => simp [sleep]
  | sent | timedOut | haltedSending | refused => exact (frame_afterReport _ _ _ _).2.2.2.1
  | _ => rfl

theorem Run.setup {start final : Task} {entries : List Entry} (run : Run start entries final) :
    ∀ entry ∈ entries, entry.before.setup = final.setup := by
  induction run with
  | refl => simp
  | @step entries task around event next effects prior move inductionHypothesis =>
    have same : next.setup = task.setup := move.setup
    intro entry member
    obtain earlier | last := List.mem_append.mp member
    · exact (inductionHypothesis entry earlier).trans same.symm
    · obtain rfl := List.mem_singleton.mp last
      exact same.symm

/-- A moment that does not exist, counted from some time, does not exist from a later one. -/
theorem no_moment_later {start later nanoseconds : Nat}
    (no_moment : Clock.moment? start nanoseconds = none) (order : start ≤ later) :
    Clock.moment? later nanoseconds = none := by
  simp only [Clock.moment?, ite_eq_right_iff, reduceCtorEq, imp_false, Nat.not_lt] at no_moment ⊢
  omega

/-- An attempt breaks off in a run only where the moment of the next one does not exist, counted
from the present as from any later time. -/
theorem Run.brokeOff {start final : Task} {entries : List Entry} (run : Run start entries final)
    {kind : AttemptKind} {entry : Entry} (member : entry ∈ entries)
    (broke : .brokeOff kind ∈ entry.effects) {now : Nat} (later : entry.around.now ≤ now) :
    Clock.moment? now (final.period kind) = none := by
  obtain ⟨next, move⟩ := run.moved member
  have no_moment := move.brokeOff broke
  have same : final.period kind = entry.before.period kind := by
    cases kind <;> simp [period, run.setup entry member]
  rw [same]
  exact no_moment_later no_moment later

end Inclusion.Task
