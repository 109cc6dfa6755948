import Mathlib.Algebra.GroupWithZero.Nat
import Mathlib.Order.Basic
import Inclusion.Proofs.Task.Pacing
import Inclusion.Proofs.Task.Record

/-!
# The figures of a task

A task counts its successful attempts and adds up the milliseconds of their tip selections and
attachments. Each figure changes where a call of an attempt returns successfully, whatever becomes
of the attempt later: the times as soon as tips are selected or trytes are attached, the counts when
trytes are broadcast. So the figures are at any time what can be tallied from the dialogue of the
task with the nodes.

Every update shows the figures of the moment at which it is offered. The report of a success is
offered at the step that counts it, so it shows more than everything offered before.
-/

namespace Inclusion

/-- The figures that a task keeps and its updates show. -/
@[ext]
structure Figures where
  attaches : Nat := 0
  promotions : Nat := 0
  attachTime : Nat := 0
  tipSelectionTime : Nat := 0
deriving DecidableEq

namespace Figures

instance : Add Figures where
  add first second :=
    { attaches := first.attaches + second.attaches
      promotions := first.promotions + second.promotions
      attachTime := first.attachTime + second.attachTime
      tipSelectionTime := first.tipSelectionTime + second.tipSelectionTime }

@[simp] theorem add_attaches (first second : Figures) :
    (first + second).attaches = first.attaches + second.attaches := rfl

@[simp] theorem add_promotions (first second : Figures) :
    (first + second).promotions = first.promotions + second.promotions := rfl

@[simp] theorem add_attachTime (first second : Figures) :
    (first + second).attachTime = first.attachTime + second.attachTime := rfl

@[simp] theorem add_tipSelectionTime (first second : Figures) :
    (first + second).tipSelectionTime = first.tipSelectionTime + second.tipSelectionTime := rfl

@[simp] theorem add_nothing (figures : Figures) : figures + {} = figures := rfl

/-- Figures are compared one by one. -/
instance : Preorder Figures where
  le first second :=
    first.attaches ≤ second.attaches ∧ first.promotions ≤ second.promotions ∧
      first.attachTime ≤ second.attachTime ∧ first.tipSelectionTime ≤ second.tipSelectionTime
  le_refl _ := ⟨Nat.le_refl _, Nat.le_refl _, Nat.le_refl _, Nat.le_refl _⟩
  le_trans _ _ _ less more :=
    ⟨Nat.le_trans less.1 more.1, Nat.le_trans less.2.1 more.2.1,
      Nat.le_trans less.2.2.1 more.2.2.1, Nat.le_trans less.2.2.2 more.2.2.2⟩

theorem le_def {first second : Figures} : first ≤ second ↔
    first.attaches ≤ second.attaches ∧ first.promotions ≤ second.promotions ∧
      first.attachTime ≤ second.attachTime ∧
      first.tipSelectionTime ≤ second.tipSelectionTime := Iff.rfl

theorem le_add (figures more : Figures) : figures ≤ figures + more := by
  simp [le_def]

/-- A single successful attempt. -/
def ofSuccess : AttemptKind → Figures
  | .promotion => { promotions := 1 }
  | .reattachment => { attaches := 1 }

/-- What the return of a call adds to the figures, by the kind of attempt that has made it. -/
def gain (kind : AttemptKind) : Operation → Verdict → Figures
  | .selectTips, .answered answer => { tipSelectionTime := answer.milliseconds }
  | .attachToTangle, .answered answer => { attachTime := answer.milliseconds }
  | .storeAndBroadcast, .answered _ => .ofSuccess kind
  | _, _ => {}

end Figures

/-- The figures that an update shows. -/
def Update.figures (update : Update) : Figures where
  attaches := update.attaches
  promotions := update.promotions
  attachTime := update.attachTime
  tipSelectionTime := update.tipSelectionTime

/-- An update shows no less than the given figures, and if it reports a success it shows more
successes of that kind. -/
structure Update.Exceeds (update : Update) (figures : Figures) : Prop where
  least : figures ≤ update.figures
  promotion : update.kind = .promote → figures.promotions < update.figures.promotions
  reattachment : update.kind = .reattach → figures.attaches < update.figures.attaches

theorem Update.Exceeds.mono {update : Update} {less more : Figures} (exceeds : update.Exceeds more)
    (order : less ≤ more) : update.Exceeds less where
  least := order.trans exceeds.least
  promotion reports :=
    Nat.lt_of_le_of_lt (Figures.le_def.mp order).2.1 (exceeds.promotion reports)
  reattachment reports :=
    Nat.lt_of_le_of_lt (Figures.le_def.mp order).1 (exceeds.reattachment reports)

/-- The operation for which an attempt waits at a stage. -/
def Stage.operation : Stage → Operation
  | preparing => .prepareTransfers
  | selecting _ => .selectTips
  | attaching => .attachToTangle
  | broadcasting _ _ => .storeAndBroadcast

/-- It is that of the call under way. -/
theorem Underway.operation {setup : Setup} {tail : Hash} {trytes : List String}
    {kind : AttemptKind} {exchanges : List Exchange} {stage : Stage} {request : Request}
    (underway : Underway setup tail trytes kind exchanges stage request) :
    request.operation = stage.operation := by
  cases underway <;> rfl

namespace Task

variable {around : Surroundings} {task : Task} {event : Event} {turn : Turn} {kind : AttemptKind}
  {said : List Act}

/-- The figures that a task keeps. -/
def figures (task : Task) : Figures where
  attaches := task.attaches
  promotions := task.promotions
  attachTime := task.attachTime
  tipSelectionTime := task.tipSelectionTime

/-! ## The tally of a dialogue -/

/-- What a call for an operation has brought, if it was made for an attempt of a kind and was
successful. -/
def Act.success? (kind : AttemptKind) (operation : Operation) : Act → Option Answer
  | .hears party request (.answered answer) =>
    if party = kind.party ∧ request.operation = operation then some answer else none
  | _ => none

/-- What the successful calls for an operation have brought to the attempts of a kind, in order. -/
def successes (kind : AttemptKind) (operation : Operation) (said : List Act) : List Answer :=
  said.filterMap (Act.success? kind operation)

/-- The whole milliseconds of each successful call for an operation, of all attempts. -/
def timeOf (operation : Operation) (said : List Act) : Nat :=
  ((successes .promotion operation said).map Answer.milliseconds).sum +
    ((successes .reattachment operation said).map Answer.milliseconds).sum

/-- The figures that a dialogue shows: how many reattachments and how many promotions have been
broadcast, and how long attachments and tip selections have taken, also those of attempts that have
failed afterwards. -/
def tally (said : List Act) : Figures where
  attaches := (successes .reattachment .storeAndBroadcast said).length
  promotions := (successes .promotion .storeAndBroadcast said).length
  attachTime := timeOf .attachToTangle said
  tipSelectionTime := timeOf .selectTips said

@[simp] theorem tally_nil : tally [] = {} := rfl

@[simp] theorem tally_append (first second : List Act) :
    tally (first ++ second) = tally first + tally second := by
  ext <;> simp [tally, timeOf, successes]
  all_goals omega

/-- Where no call of an attempt returns there is nothing to tally. -/
theorem tally_eq_nothing
    (silent : ∀ act ∈ said, ∀ kind operation, Act.success? kind operation act = none) :
    tally said = {} := by
  have none_succeeds : ∀ kind operation, successes kind operation said = [] :=
    fun kind operation =>
      List.filterMap_eq_nil_iff.mpr fun act member => silent act member kind operation
  simp [tally, timeOf, none_succeeds]

@[simp] theorem tally_acts (effects : List Effect) : tally (acts effects) = {} := by
  refine tally_eq_nothing fun act member _ _ => ?_
  obtain ⟨effect, -, shows⟩ := List.mem_filterMap.mp member
  cases effect with
  | call | began | ended | brokeOff =>
    obtain rfl := Option.some.inj shows
    rfl
  | _ => cases shows

/-- One successful call is a success of its own kind and operation. -/
theorem successes_hears (counted kind : AttemptKind) (operation : Operation) (request : Request)
    (answer : Answer) :
    successes counted operation [.hears kind.party request (.answered answer)] =
      if kind = counted ∧ request.operation = operation then [answer] else [] := by
  simp only [successes, List.filterMap_cons, List.filterMap_nil, Act.success?,
    AttemptKind.party_inj]
  split_ifs <;> rfl

/-- The return of a call of an attempt is tallied by its operation. -/
theorem tally_hears (kind : AttemptKind) (request : Request) (verdict : Verdict) :
    tally [.hears kind.party request verdict] = .gain kind request.operation verdict := by
  cases verdict with
  | failed cause =>
    have silent : tally [.hears kind.party request (.failed cause)] = {} :=
      tally_eq_nothing fun act member _ _ => by
        obtain rfl := List.mem_singleton.mp member
        rfl
    rw [silent]
    cases request.operation <;> rfl
  | answered answer =>
    simp only [tally, timeOf, successes_hears]
    generalize request.operation = operation
    cases kind <;> cases operation <;> simp [Figures.gain, Figures.ofSuccess]

/-! ## What a step adds -/

@[simp] theorem figures_place (task : Task) (kind : AttemptKind) (position : Attempter) :
    (task.place kind position).figures = task.figures := by
  cases kind <;> rfl

@[simp] theorem figures_afterReport (task : Task) (now : Nat) (kind : AttemptKind)
    (failed : Bool) : (task.afterReport now kind failed).figures = task.figures :=
  figures_place task.unlock kind _

@[simp] theorem figures_restChecker (task : Task) (around : Surroundings) :
    (task.restChecker around).1.figures = task.figures := by
  unfold restChecker
  split <;> rfl

@[simp] theorem figures_finish (task : Task) (now : Nat) (kind : AttemptKind)
    (error : Option ConfirmerError) : (task.finish now kind error).1.figures = task.figures := by
  obtain ⟨update, deadline, ends⟩ | ends := finish_shape task now kind error
  · rw [ends, figures_place]
  · rw [ends, figures_afterReport]

theorem figures_noteVerdict (task : Task) (tail : Hash) (promotable : Bool) :
    (task.noteVerdict tail promotable).figures = task.figures := by
  unfold noteVerdict
  split <;> rfl

/-- A successful attempt is counted. -/
theorem figures_credit (task : Task) (kind : AttemptKind) (attached : List String)
    (tail : Transaction) :
    (task.credit kind attached tail).figures = task.figures + .ofSuccess kind := by
  cases kind <;> rfl

@[simp] theorem figures_schedule (task : Task) (now : Nat) (kind : AttemptKind) (next : Nat) :
    (task.schedule now kind next).figures = task.figures := by
  cases kind <;> rfl

/-- A call of an attempt that returns adds its gain, whatever becomes of the attempt. -/
theorem Answered.figures {now : Nat} {stage : Stage} {verdict : Verdict}
    (answered : Answered task now kind stage verdict turn) :
    turn.1.figures = task.figures + .gain kind stage.operation verdict := by
  cases answered with
  | @failed stage cause =>
    have nothing : Figures.gain kind stage.operation (.failed cause) = {} := by
      cases stage <;> rfl
    rw [figures_finish, nothing, Figures.add_nothing]
  | prepared => exact figures_place ..
  | selected | attached => exact figures_place ..
  | malformed | foreign => exact figures_finish ..
  | succeeded =>
    rw [figures_finish, figures_schedule]
    exact figures_credit ..
  | brokeOff =>
    rw [figures_place]
    exact figures_credit ..

/-- At a step a call of an attempt returns and adds its gain, or the figures stay as they are. -/
theorem Move.figures (move : Move around task event turn) :
    (∃ kind stage verdict, event = .answered kind.party verdict ∧
        task.attempter kind = .attempting stage ∧
        turn.1.figures = task.figures + .gain kind stage.operation verdict) ∨
      (∀ (kind : AttemptKind) verdict, event ≠ .answered kind.party verdict) ∧
        turn.1.figures = task.figures := by
  by_cases returns : ∀ (kind : AttemptKind) verdict, event ≠ .answered kind.party verdict
  · refine .inr ⟨returns, ?_⟩
    cases move with
    | answered => exact absurd rfl (returns _ _)
    | @began kind =>
      obtain ⟨stage, role, request, begun⟩ := begin_shape task kind
      rw [begun, figures_place]
    | entered | recovered | haltedAsleep | woke | retired | deferred => exact figures_place ..
    | sent | timedOut | haltedSending | refused => exact figures_afterReport ..
    | @judged tail promotable =>
      rw [← figures_noteVerdict task tail promotable]
      exact figures_restChecker ..
    | checkFailed => exact figures_restChecker ..
    | _ => rfl
  · push Not at returns
    obtain ⟨kind, verdict, rfl⟩ := returns
    obtain ⟨_, granted, -⟩ | ⟨other, stage, brought, returned, stands, answered⟩ |
      ⟨-, unanswered⟩ := move.attempts
    · cases granted
    · exact .inl ⟨other, stage, brought, returned, stands, answered.figures⟩
    · exact absurd rfl (unanswered kind verdict)

/-- Figures never decrease. -/
theorem Move.figures_le (move : Move around task event turn) : task.figures ≤ turn.1.figures := by
  obtain ⟨kind, stage, verdict, -, -, more⟩ | ⟨-, same⟩ := move.figures
  · exact more ▸ Figures.le_add ..
  · exact same.ge

/-- What a step adds to the figures it adds to the tally of the dialogue. -/
theorem Records.figures {first : List String} (records : task.Records first said)
    (sound : task.Sound) (told : task.figures = tally said)
    (move : Move around task event turn) :
    turn.1.figures = tally (said ++ Entry.acts said ⟨task, around, event, turn.2⟩) := by
  rw [tally_append, ← told]
  obtain ⟨kind, stage, verdict, rfl, stands, more⟩ | ⟨unanswered, same⟩ := move.figures
  · obtain ⟨exchanges, request, -, underway, opened⟩ := records.underway sound stands
    rw [acts_answered opened, ← List.singleton_append, tally_append, tally_acts, tally_hears,
      underway.operation, Figures.add_nothing]
    exact more
  · have unheard : tally (event.heard said) = {} := by
      refine tally_eq_nothing fun act member kind operation => ?_
      cases event with
      | answered party verdict =>
        obtain ⟨request, -, rfl⟩ := List.mem_map.mp member
        cases verdict with
        | failed => rfl
        | answered => exact if_neg fun both => unanswered kind _ (by rw [both.1])
      | _ => cases member
    rw [Entry.acts, tally_append, tally_acts, unheard]
    exact same

/-- In every run of a task that starts without any, the figures are what its dialogue shows. -/
theorem Run.figures {first : List String} {start final : Task} {entries : List Entry}
    (run : Run start entries final) (sound : start.Sound) (records : start.Records first [])
    (nothing : start.figures = {}) : final.figures = tally (dialogue entries) := by
  induction run with
  | refl => exact nothing
  | @step entries task around event next effects prior move inductionHypothesis =>
    rw [dialogue_concat]
    exact (prior.records sound records).figures (prior.sound sound) inductionHypothesis move

/-! ## What updates show -/

/-- An attempt that ends is offered with the figures that are kept then, or not at all. -/
theorem offered_finish (task : Task) (now : Nat) (kind : AttemptKind)
    (error : Option ConfirmerError) : offered (task.finish now kind error).2 = [] ∨
      offered (task.finish now kind error).2 = [task.outcome kind error] := by
  by_cases reporting : task.phase = .running ∧ task.stop = false
  · rw [finish, if_pos reporting]
    exact .inr rfl
  · rw [finish, if_neg reporting]
    exact .inl rfl

/-- The report of an attempt that has failed shows no less than there was before. -/
theorem exceeds_of_failed {other : Task} {error : ConfirmerError}
    (order : task.figures ≤ other.figures) :
    (other.outcome kind (some error)).Exceeds task.figures :=
  ⟨order, nofun, nofun⟩

/-- The report of an attempt that has succeeded shows that it is counted. -/
theorem exceeds_of_succeeded {other : Task}
    (counted : other.figures = task.figures + .ofSuccess kind) :
    (other.outcome kind none).Exceeds task.figures := by
  have shown : (other.outcome kind none).figures = task.figures + .ofSuccess kind := counted
  refine ⟨shown ▸ Figures.le_add .., fun reports => ?_, fun reports => ?_⟩
  · cases kind with
    | promotion => rw [shown]; exact Nat.lt_succ_self _
    | reattachment => cases reports
  · cases kind with
    | promotion => cases reports
    | reattachment => rw [shown]; exact Nat.lt_succ_self _

/-- What a step offers shows the figures after the step, and exceeds those before it. -/
theorem Answered.offers {now : Nat} {stage : Stage} {verdict : Verdict}
    (answered : Answered task now kind stage verdict turn) : offered turn.2 = [] ∨
      ∃ update, offered turn.2 = [update] ∧ update.figures = turn.1.figures ∧
        update.Exceeds task.figures := by
  have order : task.figures ≤ turn.1.figures := answered.figures ▸ Figures.le_add ..
  -- An attempt that ends is reported by what is kept when it does.
  have ends : ∀ (other : Task) (error : Option ConfirmerError),
      turn = other.finish now kind error → (other.outcome kind error).Exceeds task.figures →
      offered turn.2 = [] ∨ ∃ update, offered turn.2 = [update] ∧
        update.figures = turn.1.figures ∧ update.Exceeds task.figures := by
    rintro other error rfl exceeds
    obtain nothing | reported := offered_finish other now kind error
    · exact .inl nothing
    · exact .inr ⟨_, reported, (figures_finish ..).symm, exceeds⟩
  cases answered with
  | failed | malformed | foreign =>
    rw [figures_finish] at order
    exact ends _ _ rfl (exceeds_of_failed order)
  | prepared | selected | attached | brokeOff => exact .inl rfl
  | succeeded =>
    refine ends _ none rfl (exceeds_of_succeeded ?_)
    rw [figures_schedule]
    exact figures_credit ..

/-- What a step offers shows the figures after the step, and exceeds those before it. -/
theorem Move.offers (move : Move around task event turn) : offered turn.2 = [] ∨
    ∃ update, offered turn.2 = [update] ∧ update.figures = turn.1.figures ∧
      update.Exceeds task.figures := by
  cases move with
  | @began kind =>
    obtain ⟨stage, role, request, begun⟩ := begin_shape task kind
    exact .inl (by rw [begun]; rfl)
  | answered stands answered => exact answered.offers
  | @judged tail promotable =>
    exact .inl (restChecker_silent (task.noteVerdict tail promotable).unlock around).1
  | checkFailed => exact .inl (restChecker_silent task around).1
  | confirmed => exact .inr ⟨_, rfl, rfl, le_rfl, nofun, nofun⟩
  | _ => exact .inl rfl

/-- What is offered later in a run exceeds what was offered before. -/
theorem Run.offered_ordered {start final : Task} {entries : List Entry}
    (run : Run start entries final) :
    (offered (seen entries)).Pairwise (fun earlier later => later.Exceeds earlier.figures) ∧
      ∀ update ∈ offered (seen entries), update.figures ≤ final.figures := by
  induction run with
  | refl => exact ⟨.nil, nofun⟩
  | @step entries task around event next effects prior move inductionHypothesis =>
    obtain ⟨ordered, least⟩ := inductionHypothesis
    have most : ∀ update ∈ offered (seen entries), update.figures ≤ next.figures :=
      fun update member => (least update member).trans move.figures_le
    rw [seen_append, seen_single, offered_append]
    obtain nothing | ⟨update, one, shown, exceeds⟩ := move.offers
    · rw [nothing, List.append_nil]
      exact ⟨ordered, most⟩
    · rw [one]
      constructor
      · refine List.pairwise_append.mpr ⟨ordered, List.pairwise_singleton .., ?_⟩
        intro earlier member later last
        obtain rfl := List.mem_singleton.mp last
        exact exceeds.mono (least earlier member)
      · intro other member
        obtain before | last := List.mem_append.mp member
        · exact most other before
        · obtain rfl := List.mem_singleton.mp last
          exact shown.le

end Task

end Inclusion
