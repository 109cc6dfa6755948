import Mathlib.Algebra.GroupWithZero.Nat
import Mathlib.Data.List.Induction
import Inclusion.Proofs.Task.Pacing
import Inclusion.Proofs.Task.Record

/-!
# What a failed attempt leaves behind

What the loops of a task share is changed only by the loop that has the lock, and an attempt has it
from its beginning to its end. Until the last call of an attempt has succeeded, all that it changes
of what is shared are two figures: the milliseconds of its tip selection and of its attachment are
added as soon as each of them is done. So an attempt that fails leaves no other trace, at whatever
call it does.
-/

namespace Inclusion

/-- What the loops of a task share. -/
structure Shared where
  phase : Phase
  currentTail : Hash
  currentTrytes : List String
  nextPromotion : Nat
  nextForcedReattachment : Nat
  notPromotable : Bool
  attaches : Nat
  promotions : Nat
  tipSelectionTime : Nat
  attachTime : Nat
deriving DecidableEq

/-- The same when tip selections and attachments of the given milliseconds have been added. -/
def Shared.spend (shared : Shared) (selections attachments : List Nat) : Shared :=
  { shared with
    tipSelectionTime := shared.tipSelectionTime + selections.sum
    attachTime := shared.attachTime + attachments.sum }

theorem Shared.spend_nil (shared : Shared) : shared.spend [] [] = shared := rfl

theorem Shared.spend_append (shared : Shared)
    (selections attachments moreSelections moreAttachments : List Nat) :
    shared.spend (selections ++ moreSelections) (attachments ++ moreAttachments) =
      (shared.spend selections attachments).spend moreSelections moreAttachments := by
  simp [spend, Nat.add_assoc]

namespace Stage

/-- The milliseconds of a tip selection that has returned successfully. -/
def selection? : Stage → Verdict → Option Nat
  | .selecting _, .answered answer => some answer.milliseconds
  | _, _ => none

/-- The milliseconds of an attachment that has returned successfully. -/
def attachment? : Stage → Verdict → Option Nat
  | .attaching, .answered answer => some answer.milliseconds
  | _, _ => none

/-- An attempt at a stage has made these tip selections and attachments. -/
def Reached : Stage → List Nat → List Nat → Prop
  | .preparing, selections, attachments => selections = [] ∧ attachments = []
  | .selecting _, selections, attachments => selections = [] ∧ attachments = []
  | .attaching, selections, attachments => selections.length = 1 ∧ attachments = []
  | .broadcasting _ _, selections, attachments =>
    selections.length = 1 ∧ attachments.length = 1

/-- Whether the attached trytes are being broadcast. -/
def isBroadcasting : Stage → Bool
  | .broadcasting _ _ => true
  | _ => false

/-- No attempt selects tips or attaches twice. -/
theorem Reached.length_le {stage : Stage} {selections attachments : List Nat}
    (reached : stage.Reached selections attachments) (verdict : Verdict) :
    (selections ++ (stage.selection? verdict).toList).length ≤ 1 ∧
      (attachments ++ (stage.attachment? verdict).toList).length ≤ 1 := by
  cases stage with
  | preparing | selecting | attaching =>
    obtain ⟨selected, rfl⟩ := reached
    cases verdict <;> simp [selection?, attachment?, selected]
  | broadcasting =>
    obtain ⟨selected, attached⟩ := reached
    simp [selection?, attachment?, selected, attached]

end Stage

namespace Task

variable {around : Surroundings} {task : Task} {event : Event} {turn : Turn} {kind : AttemptKind}

/-- What the loops of a task share at present. -/
def shared (task : Task) : Shared where
  phase := task.phase
  currentTail := task.currentTail
  currentTrytes := task.currentTrytes
  nextPromotion := task.nextPromotion
  nextForcedReattachment := task.nextForcedReattachment
  notPromotable := task.notPromotable
  attaches := task.attaches
  promotions := task.promotions
  tipSelectionTime := task.tipSelectionTime
  attachTime := task.attachTime

/-! ## Who changes what is shared -/

@[simp] theorem shared_place (task : Task) (kind : AttemptKind) (position : Attempter) :
    (task.place kind position).shared = task.shared := by
  cases kind <;> rfl

@[simp] theorem shared_afterReport (task : Task) (now : Nat) (kind : AttemptKind)
    (failed : Bool) : (task.afterReport now kind failed).shared = task.shared :=
  shared_place task.unlock kind _

@[simp] theorem shared_restChecker (task : Task) (around : Surroundings) :
    (task.restChecker around).1.shared = task.shared := by
  unfold restChecker
  split <;> rfl

/-- The end of an attempt changes nothing more. -/
@[simp] theorem shared_finish (task : Task) (now : Nat) (kind : AttemptKind)
    (error : Option ConfirmerError) : (task.finish now kind error).1.shared = task.shared := by
  by_cases reporting : task.phase = .running ∧ task.stop = false
  · simp only [finish, if_pos reporting, shared_place]
  · simp only [finish, if_neg reporting, shared_afterReport]

/-- What is shared is changed by nobody but the loop that has the lock. -/
theorem Move.shared_kept (sound : task.Sound) (move : Move around task event turn)
    (others : ∀ party, event.party? = some party → task.lock.holder ≠ some party) :
    turn.1.shared = task.shared := by
  cases move with
  | @began kind stands held => exact absurd held (others _ rfl)
  | @answered kind stage verdict turn stands answered =>
    exact absurd (sound.holder_of_attempting stands) (others _ rfl)
  | judged stands held => exact absurd held (others _ rfl)
  | confirmed stands held | cancelled stands held => exact absurd held (others _ rfl)
  | entered | recovered | haltedAsleep => exact shared_place ..
  | woke | retired | deferred => exact shared_place ..
  | sent | timedOut | haltedSending | refused => exact shared_afterReport ..
  | checkFailed => exact shared_restChecker ..
  | _ => rfl

/-- While an attempt is under way, a call of it returns, or another loop does something that belongs
to no attempt. -/
theorem Move.during (sound : task.Sound) (move : Move around task event turn) {stage : Stage}
    (stands : task.attempter kind = .attempting stage) :
    (∃ verdict, event = .answered kind.party verdict ∧
        Answered task around.now kind stage verdict turn) ∨
      ((∀ effect ∈ turn.2, effect.attempt? = none) ∧ event.party? ≠ some kind.party) := by
  have held := sound.holder_of_attempting stands
  obtain ⟨other, -, queued, holds, -⟩ | ⟨other, late, verdict, rfl, also, answered⟩ |
    ⟨unseen, unanswered⟩ := move.attempts
  · obtain rfl := AttemptKind.party_inj.mp (Option.some.inj (held.symm.trans holds))
    exact nomatch queued.symm.trans stands
  · obtain rfl := sound.attempting_unique stands also
    obtain rfl := Attempter.attempting.inj (also.symm.trans stands)
    exact .inl ⟨verdict, rfl, answered⟩
  · exact .inr ⟨unseen, move.elsewhere unanswered stands⟩

/-! ## What is broadcast -/

/-- The trytes that nodes are asked to broadcast. -/
def broadcasts (effects : List Effect) : List (List String) :=
  effects.filterMap fun
    | .call _ _ (.storeAndBroadcast trytes) => some trytes
    | _ => none

@[simp] theorem broadcasts_append (first second : List Effect) :
    broadcasts (first ++ second) = broadcasts first ++ broadcasts second :=
  List.filterMap_append

/-- Nothing is broadcast but for an attempt. -/
theorem Move.broadcasts_aside (move : Move around task event turn)
    (unseen : ∀ effect ∈ turn.2, effect.attempt? = none) : broadcasts turn.2 = [] := by
  refine List.filterMap_eq_nil_iff.mpr fun effect member => ?_
  cases effect with
  | call party role request =>
    have elsewhere : ∀ kind : AttemptKind, party ≠ kind.party := by
      rintro kind rfl
      have silent := unseen _ member
      rw [attempt_call] at silent
      cases silent
    obtain ⟨-, -, -, rfl, -⟩ := move.check_inv member elsewhere
    rfl
  | _ => rfl

theorem broadcasts_finish (task : Task) (now : Nat) (kind : AttemptKind)
    (error : Option ConfirmerError) : broadcasts (task.finish now kind error).2 = [] := by
  obtain ⟨update, deadline, ends⟩ | ends := finish_shape task now kind error
  · rw [ends]
    rfl
  · rw [ends]
    rfl

/-! ## The course of an attempt -/

/-- What a kind of attempt spends at a step, by what it spends when a call returns. -/
def Entry.spent? (spent : Stage → Verdict → Option Nat) (kind : AttemptKind) (entry : Entry) :
    Option Nat :=
  match entry.before.attempter kind, entry.event with
  | .attempting stage, .answered party verdict =>
    if party = kind.party then spent stage verdict else none
  | _, _ => none

/-- What a kind of attempt spends in a run. -/
def expenses (spent : Stage → Verdict → Option Nat) (kind : AttemptKind) (entries : List Entry) :
    List Nat :=
  entries.filterMap (Entry.spent? spent kind)

/-- The milliseconds of the successful tip selections of a kind of attempt in a run. -/
abbrev selections (kind : AttemptKind) (entries : List Entry) : List Nat :=
  expenses Stage.selection? kind entries

/-- The milliseconds of the successful attachments of a kind of attempt in a run. -/
abbrev attachments (kind : AttemptKind) (entries : List Entry) : List Nat :=
  expenses Stage.attachment? kind entries

section Expenses

variable {spent : Stage → Verdict → Option Nat} {entries : List Entry}

theorem expenses_concat (entry : Entry) : expenses spent kind (entries ++ [entry]) =
    expenses spent kind entries ++ (entry.spent? spent kind).toList := by
  rw [expenses, List.filterMap_append]
  cases here : entry.spent? spent kind <;> simp [expenses, here]

/-- When a call of an attempt returns, what it has taken is spent. -/
theorem expenses_answered {stage : Stage} {verdict : Verdict} {effects : List Effect}
    (stands : task.attempter kind = .attempting stage) :
    expenses spent kind (entries ++ [⟨task, around, .answered kind.party verdict, effects⟩]) =
      expenses spent kind entries ++ (spent stage verdict).toList := by
  rw [expenses_concat]
  simp [Entry.spent?, stands]

/-- While another loop moves, an attempt spends nothing. -/
theorem expenses_aside {effects : List Effect} (other : event.party? ≠ some kind.party) :
    expenses spent kind (entries ++ [⟨task, around, event, effects⟩]) =
      expenses spent kind entries := by
  have nothing : Entry.spent? spent kind ⟨task, around, event, effects⟩ = none := by
    unfold Entry.spent?
    split
    · refine if_neg fun same => other ?_
      simp_all [Event.party?]
    · rfl
  rw [expenses_concat, nothing, Option.toList_none, List.append_nil]

/-- A loop that is not at work on an attempt spends nothing. -/
theorem expenses_idle {effects : List Effect} (idle : task.attempter kind = .queued) :
    expenses spent kind [⟨task, around, event, effects⟩] = [] := by
  simp [expenses, Entry.spent?, idle]

end Expenses

/-- The attempt under way at the end of a run that it has begun: what is shared was only spent on,
and nothing is broadcast before the last stage. -/
structure Spending (start : Task) (kind : AttemptKind) (entries : List Entry) (task : Task)
    (stage : Stage) : Prop where
  stands : task.attempter kind = .attempting stage
  reached : stage.Reached (selections kind entries) (attachments kind entries)
  shared : task.shared =
    start.shared.spend (selections kind entries) (attachments kind entries)
  unsent : stage.isBroadcasting = false → broadcasts (seen entries) = []

/-- An attempt that goes on after a call has spent what the call took, and comes to the next stage;
what it broadcasts, it broadcasts at the last one. -/
theorem Answered.goes_on {now : Nat} {stage next : Stage} {verdict : Verdict}
    (answered : Answered task now kind stage verdict turn)
    (attempts : turn.1.attempter kind = .attempting next) :
    turn.1.shared = task.shared.spend (stage.selection? verdict).toList
        (stage.attachment? verdict).toList ∧
      (∀ selections attachments, stage.Reached selections attachments →
        next.Reached (selections ++ (stage.selection? verdict).toList)
          (attachments ++ (stage.attachment? verdict).toList)) ∧
      (next.isBroadcasting = false → stage.isBroadcasting = false ∧ broadcasts turn.2 = []) := by
  have finished : ∀ (other : Task) (error : Option ConfirmerError),
      (other.finish now kind error).1.attempter kind ≠ .attempting next := fun other error =>
    isAttempting_eq_false.mp (finish_over other now kind error).1 next
  cases answered with
  | failed | malformed | foreign | succeeded => exact absurd attempts (finished _ _)
  | brokeOff => simp at attempts
  | prepared | selected =>
    obtain rfl := Attempter.attempting.inj ((frame_place ..).2.2.2.2.2.symm.trans attempts)
    refine ⟨shared_place .., ?_, fun _ => ⟨rfl, rfl⟩⟩
    rintro _ _ ⟨rfl, rfl⟩
    exact ⟨rfl, rfl⟩
  | attached =>
    obtain rfl := Attempter.attempting.inj ((frame_place ..).2.2.2.2.2.symm.trans attempts)
    refine ⟨shared_place .., ?_, nofun⟩
    rintro selections _ ⟨selected, rfl⟩
    exact ⟨by simpa [Stage.selection?] using selected, rfl⟩

/-- An attempt that fails at a call has spent no more than the call took, and broadcasts nothing
more. At its last stage only a node makes it fail. -/
theorem Answered.fails {now : Nat} {stage : Stage} {verdict : Verdict} {error : ConfirmerError}
    (answered : Answered task now kind stage verdict turn)
    (failed : .ended kind (some error) ∈ turn.2) :
    turn.1.shared = task.shared.spend (stage.selection? verdict).toList
        (stage.attachment? verdict).toList ∧
      broadcasts turn.2 = [] ∧
      (stage.isBroadcasting = true → ∃ cause, error = .api cause) := by
  cases answered with
  | @failed stage cause =>
    refine ⟨?_, broadcasts_finish .., fun _ => ⟨cause, Option.some.inj (mem_finish.mp failed).2⟩⟩
    have none_spent : stage.selection? (.failed cause) = none ∧
        stage.attachment? (.failed cause) = none := by
      cases stage <;> exact ⟨rfl, rfl⟩
    rw [shared_finish, none_spent.1, none_spent.2]
    exact (Shared.spend_nil _).symm
  | malformed | foreign => exact ⟨shared_finish .., broadcasts_finish .., nofun⟩
  | succeeded => cases (mem_finish.mp failed).2
  | prepared | selected | attached | brokeOff => simp at failed

variable {start final : Task} {entries between : List Entry} {first last : Entry}

/-- An attempt begins with nothing spent. -/
theorem Move.spending {stage : Stage} (move : Move around task event turn)
    (began : .began kind ∈ turn.2) (attempts : turn.1.attempter kind = .attempting stage) :
    Spending task kind [⟨task, around, event, turn.2⟩] turn.1 stage := by
  obtain ⟨rfl, stands, -, -, -, rfl⟩ := move.began_inv began
  cases kind with
  | promotion | reattachment =>
    cases attempts
    refine ⟨rfl, ?_, ?_, fun _ => rfl⟩
    · exact ⟨expenses_idle stands, expenses_idle stands⟩
    · rw [selections, attachments, expenses_idle stands, expenses_idle stands]
      exact shared_place ..

/-- While an attempt is under way it only spends. -/
theorem Spending.step {stage next : Stage} (spending : Spending start kind entries task stage)
    (sound : task.Sound) (move : Move around task event turn)
    (attempts : turn.1.attempter kind = .attempting next) :
    Spending start kind (entries ++ [⟨task, around, event, turn.2⟩]) turn.1 next := by
  obtain ⟨verdict, rfl, answered⟩ | ⟨unseen, other⟩ := move.during sound spending.stands
  · obtain ⟨shared, reached, unsent⟩ := answered.goes_on attempts
    refine ⟨attempts, ?_, ?_, fun early => ?_⟩
    · rw [selections, attachments, expenses_answered spending.stands,
        expenses_answered spending.stands]
      exact reached _ _ spending.reached
    · rw [selections, attachments, expenses_answered spending.stands,
        expenses_answered spending.stands, Shared.spend_append, ← spending.shared]
      exact shared
    · obtain ⟨before, silent⟩ := unsent early
      rw [seen_append, broadcasts_append, spending.unsent before, seen_single, silent]
      rfl
  · -- Another loop moves, and it does not have the lock.
    have held := sound.holder_of_attempting spending.stands
    have kept := move.shared_kept sound fun party addressed holds =>
      other (addressed.trans (holds.symm.trans held))
    have stands := (move.attempter_kept other).trans spending.stands
    obtain rfl := Attempter.attempting.inj (stands.symm.trans attempts)
    refine ⟨attempts, ?_, ?_, fun early => ?_⟩
    · rw [selections, attachments, expenses_aside other, expenses_aside other]
      exact spending.reached
    · rw [selections, attachments, expenses_aside other, expenses_aside other, kept]
      exact spending.shared
    · rw [seen_append, broadcasts_append, spending.unsent early, seen_single,
        move.broadcasts_aside unseen]
      rfl

/-- An attempt under way at the end of a run has only spent, if no other one of its kind has begun
since it did. -/
theorem Run.spending {stage : Stage} (run : Run start (first :: between) final)
    (sound : start.Sound) (began : .began kind ∈ first.effects)
    (only : ∀ entry ∈ between, .began kind ∉ entry.effects)
    (attempts : final.attempter kind = .attempting stage) :
    Spending start kind (first :: between) final stage := by
  induction between using List.reverseRecOn generalizing final stage with
  | nil =>
    obtain ⟨prior, move⟩ := @Run.last _ _ [] _ run
    rw [← prior.eq_of_nil]
    exact move.spending began attempts
  | append_singleton between entry inductionHypothesis =>
    obtain ⟨prior, move⟩ := @Run.last _ _ (first :: between) _ run
    -- It has been under way before this step, which begins none.
    obtain attempted | again := move.isAttempting (isAttempting_iff.mpr ⟨stage, attempts⟩)
    · obtain ⟨earlier, stands⟩ := isAttempting_iff.mp attempted
      have spending := inductionHypothesis prior (fun other member => only other (by simp [member]))
        stands
      exact spending.step (prior.sound sound) move attempts
    · exact absurd again (only entry (by simp))

/-- An attempt that fails, at whatever call and whatever the other loops do meanwhile, leaves what
the loops share as it was before, but for the milliseconds of its tip selection and of its
attachment, if it has come to them. Trytes that are no bundle, or another one, are rejected before
anything is broadcast. Every task that has been started is sound, whatever has happened to it. -/
theorem Run.failed_attempt_only_spends {error : ConfirmerError}
    (run : Run start (first :: between ++ [last]) final) (sound : start.Sound)
    (began : .began kind ∈ first.effects)
    (only : ∀ entry ∈ between, .began kind ∉ entry.effects)
    (failed : .ended kind (some error) ∈ last.effects) :
    (selections kind (first :: between ++ [last])).length ≤ 1 ∧
      (attachments kind (first :: between ++ [last])).length ≤ 1 ∧
      final.shared = start.shared.spend (selections kind (first :: between ++ [last]))
        (attachments kind (first :: between ++ [last])) ∧
      ((∀ cause, error ≠ .api cause) →
        broadcasts (seen (first :: between ++ [last])) = []) := by
  obtain ⟨prior, move⟩ := run.last
  obtain ⟨-, -, -, -, -, begins⟩ | ⟨stage, verdict, returned, stands, answered⟩ :=
    move.attempt_inv failed rfl
  · obtain ⟨stage, role, request, begun⟩ := begin_shape last.before kind
    have effects : last.effects = [.began kind, .call kind.party role request] :=
      congrArg Prod.snd (begins.trans begun)
    simp [effects] at failed
  · have spending := prior.spending sound began only stands
    obtain ⟨shared, silent, by_node⟩ := answered.fails failed
    obtain ⟨one_selection, one_attachment⟩ := spending.reached.length_le verdict
    obtain ⟨before, around, event, effects⟩ := last
    obtain rfl : event = .answered kind.party verdict := returned
    rw [selections, attachments, expenses_answered stands, expenses_answered stands]
    refine ⟨one_selection, one_attachment, ?_, fun rejected => ?_⟩
    · rw [Shared.spend_append, ← spending.shared]
      exact shared
    · have early : stage.isBroadcasting = false := Bool.eq_false_iff.mpr fun sends =>
        (by_node sends).elim rejected
      rw [seen_append, broadcasts_append, spending.unsent early, seen_single, silent]
      rfl

/-- A task that has just been started. -/
def freshTask : Task :=
  Task.start ⟨.null, .null, {}, 900_000_000_000⟩
    ⟨.null, "", .null, 0, "", 0, 0, 0, .null, .null, .null, "", 0, 0, 0, ""⟩ [] 0 900_000_000_000

/-- The promoter has slept and asks for the lock. -/
def awaking : List (Surroundings × Event) :=
  [(⟨0, 0, 0⟩, .entered .promoter), (⟨60_000_000_000, 0, 0⟩, .elapsed .promoter)]

/-- The task when it has done so. -/
def awakeTask : Task :=
  ((freshTask.replay awaking).get (by decide)).2

theorem sound_awakeTask : awakeTask.Sound :=
  (@run_of_replay awaking freshTask _ _ (Option.some_get (by decide)).symm).sound (sound_start ..)

/-- The promoter selects tips within seven milliseconds and attaches within three, but no bundle.
The checker asks for the lock meanwhile. -/
def rejection : List (Surroundings × Event) :=
  [(⟨60_000_000_000, 0, 0⟩, .granted .promoter),
    (⟨60_000_000_000, 0, 0⟩, .answered .promoter (.answered ⟨.trytes [], "node", 5_000_000⟩)),
    (⟨60_000_000_000, 0, 0⟩, .entered .checker),
    (⟨60_007_000_000, 1, 0⟩,
      .answered .promoter (.answered ⟨.tips ⟨.null, .null⟩, "node", 7_000_000⟩)),
    (⟨60_010_000_000, 1, 0⟩, .answered .promoter (.answered ⟨.trytes [], "node", 3_000_000⟩))]

/-- It leaves ten milliseconds behind, and has broadcast nothing. -/
theorem failed_attempt_only_spends_rejection : ∃ final first between last,
    Run awakeTask (first :: between ++ [last]) final ∧
      .ended .promotion (some (.malformedAttachment .noTail)) ∈ last.effects ∧
      final.shared = awakeTask.shared.spend [7] [3] ∧
      broadcasts (seen (first :: between ++ [last])) = [] := by
  have run : Run awakeTask [_, _, _, _, _] _ := @run_of_replay rejection _ _ _ rfl
  obtain ⟨-, -, left, nothing⟩ := @Run.failed_attempt_only_spends .promotion _ _ [_, _, _] _ _
    (.malformedAttachment .noTail) run sound_awakeTask (by decide) (by decide) (by decide)
  exact ⟨_, _, [_, _, _], _, run, by decide, left, nothing nofun⟩

end Task

end Inclusion
