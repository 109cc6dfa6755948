import Inclusion.Proofs.System.Dialogue
import Inclusion.Proofs.System.Updates
import Inclusion.Proofs.Task.Opinion

/-!
# What the word of the nodes on a tail comes to

However long a node takes to answer and whatever happens meanwhile, the flag of a task speaks about
the tail that the task has now. It is set exactly if the last opinion on this tail was a bad one,
and an opinion is what a node has answered when asked about that very tail.

The exception is a reattachment that ends the life of its loop, because the clock has no moment for
the next one. It has replaced the tail by then, but the flag still speaks about the tail before it.
-/

namespace Inclusion

/-- A signal is no news about the bundle. -/
theorem Task.Hears.opinion_kept {task heard : Task} (hears : task.Hears heard) :
    heard.notPromotable = task.notPromotable ∧ heard.currentTail = task.currentTail := by
  cases hears <;> exact ⟨rfl, rfl⟩

namespace System

variable {start final : System} {trace : List Moment} {id : Nat} {task : Task}

/-- The opinions on the tail of a task that were noted since the tail was last replaced. -/
def opinions (id : Nat) (trace : List Moment) (task : Task) : List Bool :=
  Task.opinions task.setup.config.promoteChain task.currentTail (seen id trace)

/-- The last success by which the tail of a task was replaced. -/
def lastReplacement (id : Nat) (trace : List Moment) (task : Task) : Option Task.Effect :=
  Task.lastReplacement task.setup.config.promoteChain (seen id trace)

/-- The flag of a task is set exactly if the last opinion on its tail that was noted since the tail
was last replaced was a bad one. If there is none it is clear, unless the tail was last replaced by
a reattachment that broke off, and a reattachment breaks off only where the clock has no moment for
the next one. What is noted is, in order, what nodes have answered when asked about a tail, and an
opinion is bad if the tail is neither consistent nor said not to be solid. At every step the flag
stays as it is unless an opinion on the present tail is noted or a reattachment ends well. -/
theorem Run.flag_follows_opinions (run : Run start trace final) (new : start.IsNew)
    (present : final.task? id = some task) :
    ((opinions id trace task = [] →
        lastReplacement id trace task ≠ some (.brokeOff .reattachment)) →
      (task.notPromotable = true ↔ (opinions id trace task).getLast? = some false)) ∧
    (.brokeOff .reattachment ∈ seen id trace →
      Clock.moment? final.now (task.period .reattachment) = none) ∧
    (Task.notes (seen id trace) ++ task.unnoted =
        (Task.answers (dialogue id trace)).map Task.opinion ∧
      ∀ tail consistency, (tail, consistency) ∈ Task.answers (dialogue id trace) →
        ((Task.opinion (tail, consistency)).2 = true ↔ consistency.consistent = true ∨
          Consistency.notSolid <:+: consistency.info.toList.map Char.toLower)) ∧
    ∀ event turn later, final.step event = some turn → turn.1.task? id = some later →
      (later.notPromotable ≠ task.notPromotable →
        (∃ promotable, .judged task.currentTail promotable ∈ taskEffects id turn.2 ∧
            later.notPromotable = !promotable) ∨
          .ended .reattachment none ∈ taskEffects id turn.2 ∧ later.notPromotable = false) ∧
      (later.currentTail ≠ task.currentTail → ∃ effect ∈ taskEffects id turn.2,
        effect.replacesTail task.setup.config.promoteChain = true) := by
  obtain ⟨-, -, trytes, initial, entries, -, origin, follows, said⟩ := run.alive new present
  obtain ⟨setup, tail, now, forced, -, -, rfl⟩ := origin
  have heeds : task.Heeds (seen id trace) := follows.seen ▸ follows.run.heeds
    (Task.sound_start setup tail trytes now forced) (Task.heeds_start setup tail trytes now forced)
  have recalls : task.Recalls (seen id trace) (dialogue id trace) :=
    follows.seen ▸ said ▸ follows.run.recalls (Task.recalls_start setup tail trytes now forced)
  refine ⟨heeds.notPromotable_iff, run.brokeOff follows,
    ⟨recalls.noted, fun _ _ _ => Consistency.isPromotable_iff⟩, ?_⟩
  intro event turn later stepped there
  obtain ⟨taskEvent, next, effects, heard, carries, carried, hears, placed⟩ |
    ⟨silent, heard, hears, placed⟩ := (touch stepped).takes present
  · obtain rfl := Option.some.inj (placed.symm.trans there)
    obtain ⟨sameFlag, sameTail⟩ := hears.opinion_kept
    rw [carried.seen, if_pos rfl, sameFlag, sameTail]
    exact carried.move.changes
  · obtain rfl := Option.some.inj (placed.symm.trans there)
    obtain ⟨sameFlag, sameTail⟩ := hears.opinion_kept
    exact ⟨absurd sameFlag, absurd sameTail⟩

/-- Settings under which a reattachment is only forced at the end of the clock. There is a moment
for this when the system begins, and none eight seconds later. They are valid. -/
def endlessWait : ConfirmerConfig :=
  { forceReattachAfterMinutes := 153722867280912920
    promoteTickMilliseconds := 60000
    reattachTickMilliseconds := 8000 }

/-- How far apart they are. -/
def farOff : Duration :=
  .ofSeconds 9223372036854775200

/-- The system with those settings after the start of its task. -/
def waitingSystem : System :=
  engaged endlessWait farOff.nanoseconds (.blank transactionLength) blankBundle

/-- A node is asked about the tail and says that it is not consistent. -/
def questionedEvents : List Event :=
  [.task 0 (.entered .checker), .task 0 (.granted .checker), .task 0 (.entered .promoter),
    .task 0 (.entered .reattacher), .task 0 (.entered .supervisor), .poller (.pollerEntered 1),
    .legEnded 0 0 (.replied (.consistency ⟨false, ""⟩)), .callReturned 0]

/-- The system when this answer has returned. -/
def questionedSystem : System :=
  ((waitingSystem.replay questionedEvents).get (by decide)).2

/-- The task that has asked. -/
def questionedTask : TaskRecord :=
  questionedSystem.tasks[0]?.get (by decide)

/-- The task when it has noted the answer. -/
def doubtfulTask : Task :=
  ({ questionedTask.task with notPromotable := true }.unlock.restChecker
    questionedSystem.surroundings).1

/-- What this makes of the system. -/
def doubtfulTurn : Turn :=
  carryOut (serveTask questionedTask.engine 0 doubtfulTask.setup.bundle)
    (questionedSystem.setTask 0 doubtfulTask) [.judged questionedTask.task.currentTail false]

/-- The run up to there. -/
def doubtfulTrace : List Moment :=
  startMoment endlessWait :: ((waitingSystem.replay questionedEvents).get (by decide)).1 ++
    [⟨questionedSystem, .task 0 (.granted .checker), doubtfulTurn.2⟩]

theorem run_doubtful : Run (idle endlessWait) doubtfulTrace doubtfulTurn.1 := by
  have stands : questionedTask.task.checker =
      .reporting questionedTask.task.currentTail false := rfl
  have moved : Task.Move questionedSystem.surroundings questionedTask.task (.granted .checker) _ :=
    .judged stands (by decide)
  -- The tail is compared with itself, so its hash need not be computed.
  rw [Task.noteVerdict, if_pos rfl] at moved
  have started : (idle endlessWait).step (.start 0 blankBundle) =
      some (waitingSystem, [.started 0 0]) :=
    step_start tailOf_blankBundle (by decide) (by decide)
  have questioned := @run_replay questionedEvents waitingSystem (by decide)
  have noted : questionedSystem.step (.task 0 (.granted .checker)) = some doubtfulTurn :=
    step_own (by decide) (Option.some_get _).symm moved
  exact ((Run.step .refl started).trans questioned).step noted

/-- The answer was a bad opinion on the tail that the task still has, and the flag is set. -/
theorem flag_follows_opinions_small : ∃ trace final task, Run (idle endlessWait) trace final ∧
    final.task? 0 = some task ∧ task.notPromotable = true ∧
      (opinions 0 trace task).getLast? = some false := by
  have present : doubtfulTurn.1.task? 0 = some doubtfulTask := rfl
  have kept : lastReplacement 0 doubtfulTrace doubtfulTask = none := by decide
  obtain ⟨flag, -⟩ := run_doubtful.flag_follows_opinions (isNew_idle _) present
  exact ⟨doubtfulTrace, doubtfulTurn.1, doubtfulTask, run_doubtful, present, rfl,
    (flag fun _ => by simp [kept]).mp rfl⟩

/-- As the tail cannot be promoted, it is reattached, up to the point at which a node has attached
the trytes. -/
def reattachingEvents : List Event :=
  [.timePassed 8_000_000_000, .task 0 (.elapsed .reattacher), .task 0 (.granted .reattacher),
    .legEnded 1 0 (.replied (.tips ⟨.null, .null⟩)), .callReturned 1,
    .legEnded 2 0 (.replied (.trytes blankBundle))]

/-- The system at that point. -/
def reattachingSystem : System :=
  ((doubtfulTurn.1.replay reattachingEvents).get (by decide)).2

/-- The call by which the trytes come back. -/
def reattachedCall : CallRecord :=
  (reattachingSystem.call? 2).get (by decide)

/-- The system without that call. -/
def reattachedSystem : System :=
  reattachingSystem.setCall { reattachedCall with owner := none }

/-- The task to which they come back. -/
def reattachingTask : TaskRecord :=
  reattachedSystem.tasks[0]?.get (by decide)

/-- The task when it goes on to broadcast them. -/
def rebroadcastingTask : Task :=
  reattachingTask.task.place .reattachment
    (.attempting (.broadcasting blankBundle (.blank transactionLength)))

/-- What the return of that call makes of the system. -/
def rebroadcastingTurn : Turn :=
  carryOut (serveTask reattachingTask.engine 0 rebroadcastingTask.setup.bundle)
    (reattachedSystem.setTask 0 rebroadcastingTask)
    [.call .reattacher .general (.storeAndBroadcast blankBundle)]

/-- A node broadcasts them, and the loop breaks off: the tail has been replaced and nothing has been
said about the new one, but the flag is still set. -/
theorem flag_without_opinion : (∃ address, endlessWait.validate = .ok address) ∧
    ∃ trace final task, Run (idle endlessWait) trace final ∧ final.task? 0 = some task ∧
      task.notPromotable = true ∧ opinions 0 trace task = [] ∧
      lastReplacement 0 trace task = some (.brokeOff .reattachment) := by
  have verdict : reattachedCall.call.verdict = some (.answered ⟨.trytes blankBundle, "node", 0⟩) :=
    rfl
  have stands : reattachingTask.task.attempter .reattachment = .attempting .attaching := by decide
  have moved : Task.Move reattachedSystem.surroundings reattachingTask.task (.answered .reattacher
      (.answered ⟨.trytes blankBundle, "node", 0⟩)) (rebroadcastingTask,
        [.call .reattacher .general (.storeAndBroadcast blankBundle)]) :=
    .answered stands (.attached tailOf_blankBundle fun other => other.2 rfl)
  have returned : reattachingSystem.step (.callReturned 2) = some rebroadcastingTurn :=
    step_callReturned (Option.some_get _).symm (by decide) verdict (Option.some_get _).symm moved
  have attached := (run_doubtful.trans
    (@run_replay reattachingEvents doubtfulTurn.1 (by decide))).step returned
  have broadcast := @run_replay [.legEnded 3 0 (.replied .done), .callReturned 3]
    rebroadcastingTurn.1 (by decide)
  refine ⟨⟨.null, by decide⟩, _, _, _, attached.trans broadcast,
    (Option.some_get (by decide)).symm, ?_⟩
  decide

end System

end Inclusion
