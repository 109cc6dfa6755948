import Inclusion.Proofs.Task.Dialogue
import Inclusion.Proofs.Task.Reports

/-!
# What a task knows about its bundle

A task knows its tail and its trytes, and whether the nodes take the tail for one that can be
promoted. This changes at two kinds of step only: when the last call of a successful attempt
returns, and when what a node has said about a tail is noted. The opinion on the tail is all that a
note can change.
-/

namespace Inclusion.Task

/-- What a task knows about its bundle: its tail, its trytes, and whether its tail cannot be
promoted. -/
def knowledge (task : Task) : Hash × List String × Bool :=
  (task.currentTail, task.currentTrytes, task.notPromotable)

/-- Tasks that know the same go by the same bundle. -/
theorem bundle_of_knowledge {first second : Task} (same : first.knowledge = second.knowledge) :
    first.currentTail = second.currentTail ∧ first.currentTrytes = second.currentTrytes :=
  ⟨congrArg Prod.fst same, congrArg (·.2.1) same⟩

variable {around : Surroundings} {task : Task} {event : Event} {turn : Turn} {kind : AttemptKind}

@[simp] theorem knowledge_place (task : Task) (kind : AttemptKind) (position : Attempter) :
    (task.place kind position).knowledge = task.knowledge := by
  cases kind <;> rfl

@[simp] theorem knowledge_afterReport (task : Task) (now : Nat) (kind : AttemptKind)
    (failed : Bool) : (task.afterReport now kind failed).knowledge = task.knowledge :=
  knowledge_place task.unlock kind _

@[simp] theorem knowledge_restChecker (task : Task) (around : Surroundings) :
    (task.restChecker around).1.knowledge = task.knowledge := by
  unfold restChecker
  split <;> rfl

/-- The end of an attempt is no news about the bundle. -/
@[simp] theorem knowledge_finish (task : Task) (now : Nat) (kind : AttemptKind)
    (error : Option ConfirmerError) :
    (task.finish now kind error).1.knowledge = task.knowledge := by
  by_cases reporting : task.phase = .running ∧ task.stop = false
  · simp only [finish, if_pos reporting, knowledge_place]
  · simp only [finish, if_neg reporting, knowledge_afterReport]

/-- What is noted is the last word of the checking loop, when it has the lock. -/
theorem Move.judged_inv (move : Move around task event turn) {tail : Hash} {promotable : Bool}
    (judged : .judged tail promotable ∈ turn.2) :
    event = .granted .checker ∧ task.checker = .reporting tail promotable ∧
      task.lock.holder = some .checker ∧
      turn.1.knowledge = (task.noteVerdict tail promotable).knowledge ∧
      (turn.2 = [.judged tail promotable] ∨
        turn.2 = [.judged tail promotable, .leaveLoad, .loopEnded .checker]) := by
  cases move with
  | @began kind =>
    obtain ⟨stage, role, request, begun⟩ := begin_shape task kind
    simp [begun] at judged
  | answered stands answered => cases answered.progress <;> simp at judged
  | checkFailed =>
    rcases restChecker_effects task around with silent | ended
    · simp [silent] at judged
    · simp [ended] at judged
  | @judged reported word stands held =>
    have known := knowledge_restChecker (task.noteVerdict reported word).unlock around
    rcases restChecker_effects (task.noteVerdict reported word).unlock around with silent | ended
    · simp only [silent, List.mem_singleton, Effect.judged.injEq] at judged
      obtain ⟨rfl, rfl⟩ := judged
      exact ⟨rfl, stands, held, known, .inl (congrArg (List.cons _) silent)⟩
    · simp only [ended, List.mem_cons, Effect.judged.injEq, List.not_mem_nil, reduceCtorEq,
        or_false] at judged
      obtain ⟨rfl, rfl⟩ := judged
      exact ⟨rfl, stands, held, known, .inr (congrArg (List.cons _) ended)⟩
  | _ => simp [register, leaveChecker, confirm] at judged

/-- Nothing else is noted. -/
theorem Move.knowledge_kept (move : Move around task event turn)
    (unanswered : ∀ (kind : AttemptKind) verdict, event ≠ .answered kind.party verdict)
    (unjudged : ∀ tail promotable, .judged tail promotable ∉ turn.2) :
    turn.1.knowledge = task.knowledge := by
  cases move with
  | answered => exact absurd rfl (unanswered _ _)
  | judged => exact absurd List.mem_cons_self (unjudged _ _)
  | @began kind =>
    obtain ⟨stage, role, request, begun⟩ := begin_shape task kind
    rw [begun]
    exact knowledge_place ..
  | entered | recovered | haltedAsleep => exact knowledge_place ..
  | woke | retired | deferred => exact knowledge_place ..
  | sent | timedOut | haltedSending | refused => exact knowledge_afterReport ..
  | checkFailed => exact knowledge_restChecker ..
  | _ => rfl

/-- A note leaves the tail and the trytes as they are. -/
theorem noteVerdict_bundle (task : Task) (tail : Hash) (promotable : Bool) :
    (task.noteVerdict tail promotable).currentTail = task.currentTail ∧
      (task.noteVerdict tail promotable).currentTrytes = task.currentTrytes := by
  unfold noteVerdict
  split <;> exact ⟨rfl, rfl⟩

/-- Only the return of a call of an attempt replaces the tail or the trytes. -/
theorem Move.bundle_kept (move : Move around task event turn)
    (unanswered : ∀ (kind : AttemptKind) verdict, event ≠ .answered kind.party verdict) :
    turn.1.currentTail = task.currentTail ∧ turn.1.currentTrytes = task.currentTrytes := by
  by_cases unjudged : ∀ tail promotable, .judged tail promotable ∉ turn.2
  · exact bundle_of_knowledge (move.knowledge_kept unanswered unjudged)
  · push Not at unjudged
    obtain ⟨tail, promotable, judged⟩ := unjudged
    obtain ⟨currentTail, currentTrytes⟩ := bundle_of_knowledge (move.judged_inv judged).2.2.2.1
    obtain ⟨sameTail, sameTrytes⟩ := noteVerdict_bundle task tail promotable
    exact ⟨currentTail.trans sameTail, currentTrytes.trans sameTrytes⟩

end Inclusion.Task
