import Inclusion.Proofs.Task.Updates

/-!
# Attempts

An attempt begins when its loop gets the lock and finds it due, calls nodes, and is over when it
has ended, with an error or without, or has broken off: it has succeeded, but the moment of the
next one of its kind does not exist. Every attempt that has begun is over or under way, and a loop
calls nodes for nothing else.
-/

namespace Inclusion

theorem AttemptKind.forall_iff {property : AttemptKind → Prop} :
    (∀ kind, property kind) ↔ property .promotion ∧ property .reattachment := by
  refine ⟨fun all => ⟨all _, all _⟩, fun both kind => ?_⟩
  cases kind with
  | promotion => exact both.1
  | reattachment => exact both.2

instance {property : AttemptKind → Prop} [DecidablePred property] :
    Decidable (∀ kind, property kind) :=
  decidable_of_iff' _ AttemptKind.forall_iff

namespace Task

variable {around : Surroundings} {task : Task} {event : Event} {turn : Turn} {kind : AttemptKind}

/-- Whether an attempt of a kind is under way. -/
def isAttempting (task : Task) (kind : AttemptKind) : Bool :=
  match task.attempter kind with
  | .attempting _ => true
  | _ => false

theorem isAttempting_eq_false :
    task.isAttempting kind = false ↔ ∀ stage, task.attempter kind ≠ .attempting stage := by
  unfold isAttempting
  split <;> simp_all

theorem isAttempting_iff :
    task.isAttempting kind = true ↔ ∃ stage, task.attempter kind = .attempting stage := by
  unfold isAttempting
  split <;> simp_all

/-- How often an attempt of a kind has begun. -/
def begins (kind : AttemptKind) (effects : List Effect) : Nat :=
  effects.count (.began kind)

/-- How often an attempt of a kind has ended or broken off. -/
def finishes (kind : AttemptKind) (effects : List Effect) : Nat :=
  effects.countP fun
    | .ended other _ | .brokeOff other => other = kind
    | _ => false

/-! ## What is seen of attempts -/

/-- The kind of attempt that an effect belongs to. -/
def Effect.attempt? : Effect → Option AttemptKind
  | began kind | ended kind _ | brokeOff kind => some kind
  | call .promoter _ _ => some .promotion
  | call .reattacher _ _ => some .reattachment
  | _ => none

theorem attempt_call (kind : AttemptKind) (role : Role) (request : Request) :
    (Effect.call kind.party role request).attempt? = some kind := by
  cases kind <;> rfl

/-- No effect of the checking loop belongs to an attempt. -/
theorem attempt_restChecker (task : Task) (around : Surroundings) :
    ∀ effect ∈ (task.restChecker around).2, effect.attempt? = none := by
  rcases restChecker_effects task around with silent | ended
  · simp [silent]
  · simp [ended, Effect.attempt?]

/-- All that is seen when an attempt begins belongs to it. -/
theorem attempt_begin (task : Task) (kind : AttemptKind) :
    ∀ effect ∈ (task.begin kind).2, effect.attempt? = some kind := by
  obtain ⟨stage, role, request, begun⟩ := begin_shape task kind
  rw [begun]
  intro effect member
  obtain rfl | rfl : effect = .began kind ∨ effect = .call kind.party role request := by
    simpa using member
  · rfl
  · exact attempt_call kind role request

/-- What is seen when a node call of an attempt returns belongs to it or to none. -/
theorem Progress.attempt {now : Nat} (progress : Progress task now kind turn) :
    ∀ effect ∈ turn.2, effect.attempt? = some kind ∨ effect.attempt? = none := by
  cases progress with
  | called => simpa using .inl (attempt_call kind _ _)
  | reported | unreported | brokeOff => simp [Effect.attempt?]

/-- An effect belongs to an attempt only when the attempt begins or a node call of it returns. -/
theorem Move.attempt_inv (move : Move around task event turn) {effect : Effect}
    (member : effect ∈ turn.2) (belongs : effect.attempt? = some kind) :
    (event = .granted kind.party ∧ task.attempter kind = .queued ∧
        task.lock.holder = some kind.party ∧ task.phase = .running ∧
        task.isDue around.now kind = true ∧ turn = task.begin kind) ∨
      ∃ stage verdict, event = .answered kind.party verdict ∧
        task.attempter kind = .attempting stage ∧
        Answered task around.now kind stage verdict turn := by
  have nobody : (∀ effect ∈ turn.2, effect.attempt? = none) → False := by
    intro others
    simp [others effect member] at belongs
  cases move with
  | @began other stands held running due =>
    obtain rfl : other = kind :=
      Option.some.inj ((attempt_begin task other effect member).symm.trans belongs)
    exact .inl ⟨rfl, stands, held, running, due, rfl⟩
  | @answered other stage verdict turn stands answered =>
    obtain own | others := answered.progress.attempt effect member
    · obtain rfl : other = kind := Option.some.inj (own.symm.trans belongs)
      exact .inr ⟨stage, verdict, rfl, stands, answered⟩
    · simp [others] at belongs
  | @judged tail promotable =>
    obtain rfl | rests := List.mem_cons.mp member
    · cases belongs
    · simp [attempt_restChecker _ around effect rests] at belongs
  | checkFailed => exact (nobody (attempt_restChecker task around)).elim
  | _ => exact (nobody (by simp [Effect.attempt?, register, leaveChecker, confirm])).elim

/-- An attempt begins only when its loop gets the lock of a running task and finds it due. -/
theorem Move.began_inv (move : Move around task event turn) (began : .began kind ∈ turn.2) :
    event = .granted kind.party ∧ task.attempter kind = .queued ∧
      task.lock.holder = some kind.party ∧ task.phase = .running ∧
      task.isDue around.now kind = true ∧ turn = task.begin kind := by
  obtain begins | ⟨stage, verdict, -, -, answered⟩ := move.attempt_inv began rfl
  · exact begins
  · cases answered.progress <;> simp at began

/-! ## Which loops make attempts -/

/-- An event for one loop leaves a loop that makes attempts where it stands, if it is another. -/
theorem Move.attempter_kept (move : Move around task event turn)
    (other : event.party? ≠ some kind.party) : turn.1.attempter kind = task.attempter kind := by
  have place : ∀ {moved : AttemptKind} (former : Task) (position : Attempter),
      some moved.party ≠ some kind.party → former.attempter kind = task.attempter kind →
      (former.place moved position).attempter kind = task.attempter kind := by
    intro moved former position different same
    have different : kind ≠ moved := fun equal => different (by rw [equal])
    exact (attempter_place_of_ne former different position).trans same
  cases move with
  | entered | recovered | haltedAsleep => exact place _ _ other rfl
  | woke | retired | deferred => exact place _ _ other (by simp)
  | @began moved =>
    obtain ⟨stage, role, request, begun⟩ := begin_shape task moved
    rw [begun]
    exact place _ _ other rfl
  | answered stands answered =>
    cases answered.progress with
    | called kin | reported kin => exact place _ _ other (by rw [kin.attempter])
    | unreported kin | brokeOff kin => exact place _ _ other (by simp [kin.attempter])
  | timedOut | haltedSending | refused => exact place task.unlock _ other (by simp)
  | @sent moved update failed deadline =>
    exact place (unlock { task with outbox := ⟨some update, task.outbox.receiving⟩ }) _ other
      (by cases kind <;> rfl)
  | @judged tail promotable =>
    obtain ⟨-, -, -, -, promoter, reattacher⟩ :=
      frame_restChecker (task.noteVerdict tail promotable).unlock around
    rw [← (kin_noteVerdict task tail promotable).attempter]
    cases kind with
    | promotion => exact promoter
    | reattachment => exact reattacher
  | checkFailed =>
    obtain ⟨-, -, -, -, promoter, reattacher⟩ := frame_restChecker task around
    cases kind with
    | promotion => exact promoter
    | reattachment => exact reattacher
  | _ => cases kind <;> rfl

/-- An attempt is under way after a step only if it was before, or has just begun. -/
theorem Move.isAttempting (move : Move around task event turn)
    (attempts : turn.1.isAttempting kind = true) :
    task.isAttempting kind = true ∨ .began kind ∈ turn.2 := by
  by_cases other : event.party? ≠ some kind.party
  · rw [Task.isAttempting, move.attempter_kept other] at attempts
    exact .inl attempts
  · have same : event.party? = some kind.party := not_not.mp other
    cases move with
    | @began moved =>
      obtain ⟨stage, role, request, begun⟩ := begin_shape task moved
      obtain rfl := AttemptKind.party_inj.mp (Option.some.inj same)
      exact .inr (by simp [begun])
    | @answered moved stage verdict turn stands answered =>
      obtain rfl := AttemptKind.party_inj.mp (Option.some.inj same)
      exact .inl (by simp [Task.isAttempting, stands])
    | entered | woke | recovered | haltedAsleep | retired | deferred | sent | timedOut
    | haltedSending | refused =>
      obtain rfl := AttemptKind.party_inj.mp (Option.some.inj same)
      simp [Task.isAttempting, sleep, afterReport] at attempts
    | _ => cases kind <;> cases same

/-- A loop that makes attempts calls nodes only for an attempt. -/
theorem Move.call_inv (move : Move around task event turn) {role : Role} {request : Request}
    (calls : .call kind.party role request ∈ turn.2) :
    task.isAttempting kind = true ∨ .began kind ∈ turn.2 := by
  obtain ⟨-, -, -, -, -, rfl⟩ | ⟨stage, verdict, -, stands, -⟩ :=
    move.attempt_inv calls (attempt_call kind role request)
  · obtain ⟨stage, role, request, begun⟩ := begin_shape task kind
    exact .inr (by simp [begun])
  · exact .inl (by simp [Task.isAttempting, stands])

/-- Of attempts of a kind nothing is seen at a step of another loop. -/
theorem Move.others_silent (move : Move around task event turn)
    (other : event.party? ≠ some kind.party) :
    begins kind turn.2 = 0 ∧ finishes kind turn.2 = 0 := by
  have unseen : ∀ effect ∈ turn.2, effect.attempt? ≠ some kind := by
    intro effect member belongs
    obtain ⟨rfl, -⟩ | ⟨stage, verdict, rfl, -⟩ := move.attempt_inv member belongs
    · exact other rfl
    · exact other rfl
  refine ⟨List.count_eq_zero.mpr fun began => unseen _ began rfl, ?_⟩
  refine List.countP_eq_zero.mpr fun effect member finished => unseen effect member ?_
  cases effect <;> simp_all [Effect.attempt?]

/-- At a step, an attempt that was under way or begins is over or under way. -/
theorem Move.accounts (move : Move around task event turn) (kind : AttemptKind) :
    begins kind turn.2 + (task.isAttempting kind).toNat =
      finishes kind turn.2 + (turn.1.isAttempting kind).toNat := by
  by_cases other : event.party? ≠ some kind.party
  · obtain ⟨none_began, none_over⟩ := move.others_silent other
    rw [none_began, none_over, Task.isAttempting, Task.isAttempting, move.attempter_kept other]
  · have same : event.party? = some kind.party := not_not.mp other
    cases move with
    | @began moved stands =>
      obtain rfl := AttemptKind.party_inj.mp (Option.some.inj same)
      obtain ⟨stage, role, request, begun⟩ := begin_shape task moved
      rw [begun]
      simp [begins, finishes, Task.isAttempting, stands]
    | @answered moved stage verdict turn stands answered =>
      obtain rfl := AttemptKind.party_inj.mp (Option.some.inj same)
      cases answered.progress <;> simp [begins, finishes, Task.isAttempting, stands]
    | entered stands | woke stands | recovered stands | haltedAsleep stands | retired stands
    | deferred stands | sent stands | timedOut stands | haltedSending stands | refused stands =>
      obtain rfl := AttemptKind.party_inj.mp (Option.some.inj same)
      simp [begins, finishes, Task.isAttempting, stands, sleep, afterReport]
    | _ => cases kind <;> cases same

/-- Every attempt that has begun is over or under way. -/
theorem Run.accounts {start final : Task} {entries : List Entry} (run : Run start entries final)
    (kind : AttemptKind) :
    begins kind (seen entries) + (start.isAttempting kind).toNat =
      finishes kind (seen entries) + (final.isAttempting kind).toNat := by
  induction run with
  | refl => rfl
  | @step entries task around event next effects prior move inductionHypothesis =>
    have step : begins kind effects + (task.isAttempting kind).toNat =
      finishes kind effects + (next.isAttempting kind).toNat := move.accounts kind
    simp only [seen_append, seen_single, begins, finishes, List.count_append,
      List.countP_append] at *
    omega

/-! ## Attempts that break off -/

/-- What is to be said of an attempt that has ended or broken off. -/
def Effect.conclusion? : Effect → Option (UpdateKind × Option String)
  | ended kind error => some (kind.message error)
  | brokeOff kind => some (kind.message none)
  | _ => none

/-- What is to be said of all attempts that are over, in order. -/
def conclusions (effects : List Effect) : List (UpdateKind × Option String) :=
  effects.filterMap Effect.conclusion?

def Effect.isBrokeOff : Effect → Bool
  | brokeOff _ => true
  | _ => false

/-- Each attempt that has broken off lacks its report. -/
theorem conclusions_length (effects : List Effect) :
    (conclusions effects).length = (reports effects).length + effects.countP Effect.isBrokeOff := by
  induction effects with
  | nil => rfl
  | cons effect rest inductionHypothesis =>
    simp only [reports, conclusions] at inductionHypothesis
    cases effect <;>
      simp [reports, conclusions, List.filterMap_cons, List.countP_cons, Effect.report?,
        Effect.conclusion?, Effect.isBrokeOff, inductionHypothesis] <;>
      omega

/-- The reports are those of all attempts exactly if none has broken off. -/
theorem reports_eq_conclusions_iff {effects : List Effect} :
    reports effects = conclusions effects ↔ ∀ kind, .brokeOff kind ∉ effects := by
  constructor
  · intro same kind member
    have lengths := conclusions_length effects
    rw [← same] at lengths
    have some_broke : 0 < effects.countP Effect.isBrokeOff :=
      List.countP_pos_iff.mpr ⟨_, member, rfl⟩
    omega
  · intro none_broke
    refine List.filterMap_congr fun effect member => ?_
    cases effect with
    | brokeOff kind => exact absurd member (none_broke kind)
    | _ => rfl

/-- An attempt breaks off only where the moment of the next one does not exist. -/
theorem Move.brokeOff (move : Move around task event turn) {kind : AttemptKind}
    (broke : .brokeOff kind ∈ turn.2) : Clock.moment? around.now (task.period kind) = none := by
  obtain ⟨-, -, -, -, -, rfl⟩ | ⟨stage, verdict, -, -, answered⟩ := move.attempt_inv broke rfl
  · obtain ⟨stage, role, request, begun⟩ := begin_shape task kind
    simp [begun] at broke
  · cases answered.progress with
    | brokeOff kin no_next => exact no_next
    | _ => simp at broke

end Task

end Inclusion
