import Inclusion.Proofs.System.Dialogue
import Inclusion.Proofs.System.Updates
import Inclusion.Proofs.Task.Figures

/-!
# What the updates of a task show

In a run of a system every update that is offered to a consumer shows what can be tallied from the
dialogue of its task up to that moment: the promotions and reattachments that have been broadcast,
and the time that the nodes have taken for tip selections and attachments, wasted or not. The
consumer receives a part of what is offered, in order. So whatever it misses, the figures that it
sees never decrease, and each success that it is told of is counted in none of the updates before.

Figures are natural numbers here, without a bound.
-/

namespace Inclusion

/-- A signal changes no figure. -/
theorem Task.Hears.figures {task next : Task} (hears : task.Hears next) :
    next.figures = task.figures := by
  cases hears <;> rfl

namespace System

variable {start final : System} {trace : List Moment} {id : Nat} {task : Task}

/-- A task keeps the figures that its dialogue shows. -/
theorem Run.figures (run : Run start trace final) (new : start.IsNew)
    (present : final.task? id = some task) : task.figures = Task.tally (dialogue id trace) := by
  obtain ⟨-, -, trytes, initial, entries, -, origin, follows, said⟩ := run.alive new present
  obtain ⟨setup, tail, now, forced, read, own, rfl⟩ := origin
  rw [← said]
  exact follows.run.figures (Task.sound_start setup tail trytes now forced)
    (Task.records_start read own now forced) rfl

/-- What is offered at a moment shows what the dialogue up to there does. -/
theorem Run.offered_tells {before after : List Moment} {moment : Moment} {update : Update}
    (run : Run start (before ++ moment :: after) final) (new : start.IsNew)
    (offers : .offered update ∈ taskEffects id moment.effects) :
    update.figures = Task.tally (dialogue id (before ++ [moment])) := by
  obtain ⟨prior, next, stepped⟩ := run.split
  cases there : moment.before.task? id with
  | none => simp [(touch stepped).silent there] at offers
  | some task =>
    obtain ⟨taskEvent, moved, effects, heard, -, carried, hears, placed⟩ | ⟨silent, -⟩ :=
      (touch stepped).takes there
    · have shows : heard.figures = Task.tally (dialogue id (before ++ [moment])) :=
        (prior.step stepped).figures new placed
      rw [carried.seen, if_pos rfl] at offers
      have among : update ∈ Task.offered effects := List.mem_filterMap.mpr ⟨_, offers, rfl⟩
      obtain nothing | ⟨other, one, shown, -⟩ := carried.move.offers
      · simp [nothing] at among
      · obtain rfl : update = other := by simpa [one] using among
        rw [← shows, hears.figures]
        exact shown
    · simp [silent] at offers

/-- What a task offers, and what its consumer receives of it, is so in the task's own run. -/
theorem Run.updates_ordered (run : Run start trace final) (new : start.IsNew) (id : Nat) :
    (received id trace).Sublist (Task.offered (seen id trace)) ∧
      (Task.offered (seen id trace)).Pairwise
        fun earlier later => later.Exceeds earlier.figures := by
  cases (run.converses new).lives id with
  | unborn absent unsaid unseen =>
    rw [received, unseen]
    exact ⟨.slnil, .nil⟩
  | alive present member starts origin follows said =>
    obtain ⟨sound, -, empty, -⟩ := new_shape origin.isNew
    have flow := follows.run.flow_sublist sound
    rw [empty, List.nil_append, follows.seen] at flow
    exact ⟨(List.sublist_append_left _ _).trans flow,
      follows.seen ▸ follows.run.offered_ordered.1⟩

/-- Every update that a task offers, the confirmation too, shows how many reattachments and how many
promotions nodes have broadcast up to that moment, and how many milliseconds they have taken for the
successful attachments and tip selections, also for attempts that have failed afterwards. What the
consumer receives is, in order, a part of what is offered. Along it no figure decreases, and the
report of a promotion or reattachment counts more of its kind than every update received before,
whatever has been lost in between. -/
theorem Run.updates_tell_history (run : Run start trace final) (new : start.IsNew) (id : Nat) :
    (∀ before moment after update, trace = before ++ moment :: after →
        .offered update ∈ taskEffects id moment.effects →
        update.figures = Task.tally (dialogue id (before ++ [moment]))) ∧
      (received id trace).Sublist (Task.offered (seen id trace)) ∧
      (received id trace).Pairwise fun earlier later => later.Exceeds earlier.figures := by
  obtain ⟨part, ordered⟩ := run.updates_ordered new id
  refine ⟨?_, part, ordered.sublist part⟩
  rintro before moment after update rfl offers
  exact run.offered_tells new offers

/-- Settings under which a failed attempt is soon followed by another. -/
def briskPromotions : ConfirmerConfig :=
  { promoteTickMilliseconds := 100
    reattachTickMilliseconds := 60000
    errorBackoffSeconds := 1 }

/-- The system with those settings after the start of its task. -/
def briskSystem : System :=
  engaged briskPromotions 900_000_000_000 (.blank transactionLength) blankBundle

/-- A promotion fails after tips have been selected for it, which has taken seven milliseconds, and
the consumer is told so. The next one selects tips in three and attaches in two. -/
def wastedEvents : List Event :=
  [.task 0 (.entered .checker), .task 0 (.granted .checker), .task 0 (.entered .promoter),
    .task 0 (.entered .reattacher), .task 0 (.entered .supervisor), .poller (.pollerEntered 1),
    .timePassed 100_000_000, .task 0 (.elapsed .promoter), .task 0 (.granted .promoter),
    .legEnded 1 0 (.replied (.trytes [])), .callReturned 1, .timePassed 107_000_000,
    .legEnded 2 0 (.replied (.tips ⟨.null, .null⟩)), .callReturned 2,
    .legEnded 3 0 (.failed (.http "down")), .callReturned 3, .task 0 (.sent .promoter),
    .received 0, .timePassed 1_107_000_000, .task 0 (.elapsed .promoter), .timePassed 1_207_000_000,
    .task 0 (.elapsed .promoter), .task 0 (.granted .promoter),
    .legEnded 4 0 (.replied (.trytes [])), .callReturned 4, .timePassed 1_210_000_000,
    .legEnded 5 0 (.replied (.tips ⟨.null, .null⟩)), .callReturned 5, .timePassed 1_212_000_000,
    .legEnded 6 0 (.replied (.trytes blankBundle))]

/-- The system when the trytes of the second promotion are attached. -/
def retriedSystem : System :=
  ((briskSystem.replay wastedEvents).get (by decide)).2

/-- The call by which they come back. -/
def retriedCall : CallRecord :=
  (retriedSystem.call? 6).get (by decide)

/-- The task to which they come back. -/
def retriedTask : TaskRecord :=
  (retriedSystem.setCall { retriedCall with owner := none }).tasks[0]?.get (by decide)

/-- The task when it goes on to broadcast them. -/
def retriedNext : Task :=
  { retriedTask.task with attachTime := retriedTask.task.attachTime + 2 }.place .promotion
    (.attempting (.broadcasting blankBundle (.blank transactionLength)))

/-- What the return of that call makes of the system. -/
def retriedTurn : Turn :=
  carryOut (serveTask retriedTask.engine 0 retriedNext.setup.bundle)
    ((retriedSystem.setCall { retriedCall with owner := none }).setTask 0 retriedNext)
    [.call .promoter .general (.storeAndBroadcast blankBundle)]

/-- The consumer is told of the success. The time wasted before is still in the figures. -/
theorem updates_tell_history_brisk : ∃ trace final, Run (idle briskPromotions) trace final ∧
    (received 0 trace).map (fun update => (update.kind, update.figures)) =
      [(.noAction, { tipSelectionTime := 7 }),
        (.promote, { promotions := 1, attachTime := 2, tipSelectionTime := 10 })] ∧
      (received 0 trace).Pairwise fun earlier later => later.Exceeds earlier.figures := by
  have verdict : retriedCall.call.verdict =
      some (.answered ⟨.trytes blankBundle, "node", 2_000_000⟩) := rfl
  have stands : retriedTask.task.attempter .promotion = .attempting .attaching := by decide
  have moved : Task.Move (retriedSystem.setCall { retriedCall with owner := none }).surroundings
      retriedTask.task (.answered .promoter (.answered ⟨.trytes blankBundle, "node", 2_000_000⟩))
        (retriedNext, [.call .promoter .general (.storeAndBroadcast blankBundle)]) :=
    .answered stands (.attached tailOf_blankBundle fun other => nomatch other.1)
  have started : (idle briskPromotions).step (.start 0 blankBundle) =
      some (briskSystem, [.started 0 0]) :=
    @step_start briskPromotions (.ofSeconds 900) _ _ tailOf_blankBundle (by decide) (by decide)
  have retried := (Run.step .refl started).trans (@run_replay wastedEvents briskSystem (by decide))
  have returned : retriedSystem.step (.callReturned 6) = some retriedTurn :=
    step_callReturned (Option.some_get _).symm (by decide) verdict (Option.some_get _).symm moved
  have broadcast := @run_replay [.legEnded 7 0 (.replied .done), .callReturned 7,
    .task 0 (.sent .promoter), .received 0] retriedTurn.1 (by decide)
  have run := (retried.step returned).trans broadcast
  obtain ⟨-, -, ordered⟩ := run.updates_tell_history (isNew_idle _) 0
  refine ⟨_, _, run, ?_, ordered⟩
  decide

end System

end Inclusion
