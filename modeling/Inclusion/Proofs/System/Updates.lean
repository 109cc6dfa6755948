import Inclusion.Proofs.System.Run
import Inclusion.Proofs.Task.Reports
import Inclusion.Proofs.Task.Ending
import Inclusion.Proofs.Transaction.Blank

/-!
# What the consumer of a task receives

Two things hold of the updates of every task, whatever else goes on in the system. The confirmation
is the last update, and the end of the updates comes when the working loops have ended. And if the
task is not cancelled and its consumer takes every update in time, the consumer receives a report of
every attempt, in the order in which the attempts end, and then the confirmation.

The second has an exception. The moment of the next attempt is computed from a setting that nothing
bounds; if the clock has no such moment, the loop ends with its successful attempt and reports
nothing of it.
-/

namespace Inclusion.System

variable {start final : System} {trace : List Moment} {id : Nat} {task : Task}

/-- The updates that the consumer of a task has received in a run, in order. -/
def received (id : Nat) (trace : List Moment) : List Update :=
  Task.received (seen id trace)

/-- What a new task is. -/
theorem new_shape {initial : Task} (new : initial.IsNew) : initial.Sound ∧
    initial.phase = .running ∧ initial.inFlight = [] ∧
      ∀ kind, initial.isAttempting kind = false := by
  obtain ⟨setup, tail, trytes, now, forced, rfl⟩ := new
  exact ⟨Task.sound_start setup tail trytes now forced, rfl, rfl, fun kind => by cases kind <;> rfl⟩

/-- A consumer receives at most one confirmation and nothing after it. When all loops have ended,
the working loops have, and nothing more is received than what is in the slot. -/
theorem Run.confirmation_is_last (run : Run start trace final) (fresh : start.Fresh id)
    (present : final.task? id = some task) :
    (received id trace).countP Update.isTerminal ≤ 1 ∧
      (∀ before update after, received id trace = before ++ update :: after →
        update.isTerminal = true → after = []) ∧
      (task.isOver = true → task.workersDone = true ∧
        ∀ later last, Run final later last →
          (received id later).Sublist task.outbox.slot.toList) := by
  obtain ⟨initial, entries, new, follows⟩ := run.follows_new fresh present
  obtain ⟨sound, running, empty, -⟩ := new_shape new
  have part : (received id trace).Sublist (Task.offered (Task.seen entries)) := by
    have flow := follows.run.flow_sublist sound
    rw [empty, List.nil_append, follows.seen] at flow
    rw [follows.seen]
    exact (List.sublist_append_left _ _).trans flow
  obtain ⟨earlier, others, offers⟩ := follows.run.offered_closing sound running
  refine ⟨Task.one_confirmation part others offers, ?_, ?_⟩
  · intro before update after split terminal
    exact Task.ends_with_confirmation part others offers split terminal
  · intro past
    have ended : task.supervisor = .done := by simpa [Task.isOver] using past
    have sound := follows.run.sound sound
    refine ⟨sound.last ended, ?_⟩
    intro later last continues
    obtain ⟨more, after, goes_on, -⟩ := continues.follows present
    have flow := goes_on.run.flow_sublist sound
    rw [(goes_on.run.over sound ended).1, List.append_nil, sound.inFlight_of_over ended,
      goes_on.seen] at flow
    exact (List.sublist_append_left _ _).trans flow

/-- A run of the small system: both loops make an attempt that fails, each failure is reported and
taken, the bundle is confirmed, and the confirmation is taken. -/
def confirmedSmall : List Event :=
  let loop (event : Task.Event) : Event := .task 0 event
  let down : Outcome := .failed (.http "down")
  [loop (.entered .checker), loop (.granted .checker), loop (.entered .promoter),
    loop (.entered .reattacher), loop (.entered .supervisor), .poller (.pollerEntered 1),
    .timePassed 100_000_000, loop (.elapsed .reattacher), loop (.granted .reattacher),
    loop (.elapsed .promoter), .legEnded 1 0 down, .callReturned 1, loop (.sent .reattacher),
    .received 0, loop (.granted .promoter), .legEnded 2 0 down, .callReturned 2,
    loop (.sent .promoter), .received 0, .notifyConfirmed .null, .callbackRun, loop .confirmSeen,
    .poller (.pollerWoken 1), loop (.granted .supervisor), loop (.sent .supervisor), .received 0,
    loop (.halted .promoter), loop (.halted .reattacher)]

/-- The settings of that run: both loops look for attempts at the same time. -/
def quickTicks : ConfirmerConfig :=
  { promoteTickMilliseconds := 100 }

/-- The node fails the call of the checking loop, too, and the task is over. -/
theorem confirmation_is_last_small : ∃ trace final task, Run (small quickTicks 0) trace final ∧
    final.task? 0 = some task ∧ task.isOver = true ∧
      (received 0 trace).map Update.kind = [.noAction, .noAction, .confirm] ∧
      (received 0 trace).countP Update.isTerminal ≤ 1 ∧ task.workersDone = true := by
  obtain ⟨trace, final, task, run, present, checked⟩ :
      ∃ trace final task, Run (small quickTicks 0) trace final ∧ final.task? 0 = some task ∧
        (task.isOver && (received 0 trace).map Update.kind = [.noAction, .noAction, .confirm]) =
          true :=
    @exists_run (confirmedSmall ++ [.legEnded 0 0 (.failed (.http "down")), .callReturned 0,
      .task 0 (.halted .checker), .task 0 .joined]) _ _ _ (by decide)
  obtain ⟨past, taken⟩ := Bool.and_eq_true_iff.mp checked
  obtain ⟨once, -, ended⟩ := run.confirmation_is_last (fresh_small _ _) present
  exact ⟨trace, final, task, run, present, past, of_decide_eq_true taken, once, (ended past).1⟩

/-- An attempt breaks off only where the clock has no moment for the next one, and from then on it
has none. -/
theorem Run.brokeOff (run : Run start trace final) {initial : Task} {entries : List Task.Entry}
    {kind : AttemptKind} (follows : Follows id trace initial entries task)
    (broke : .brokeOff kind ∈ seen id trace) :
    Clock.moment? final.now (task.period kind) = none := by
  rw [← follows.seen] at broke
  obtain ⟨entry, member, broke⟩ := Task.mem_seen.mp broke
  refine follows.run.brokeOff member broke ?_
  obtain ⟨ticket, signal, signalled⟩ | ⟨moment, there, shows⟩ := follows.shown entry member
  · obtain ⟨next, move⟩ := follows.run.moved member
    rw [signalled] at move
    generalize entry.effects = effects at move broke
    cases move
    cases broke
  · rw [shows.around]
    exact run.now moment there

/-- If a task is not cancelled, and its consumer stays and takes every update before its loop gives
up, the consumer receives, in order, a report of every attempt that ends, and then the confirmation.
What it has not received yet is in flight. This is one report for each attempt that has begun and
is over exactly if none has broken off, and none has if the moments of the next attempts still
exist. Once the supervisor has been told of the confirmation and no attempt is under way, a settled
task whose updates have been taken has sent its confirmation, and has ended unless it waits for a
node that it asks about its tail. -/
theorem Run.attempts_are_reported (run : Run start trace final) (fresh : start.Fresh id)
    (present : final.task? id = some task) (uncancelled : task.cancel = false)
    (attended : task.outbox.receiving = true)
    (relieved : ∀ moment ∈ trace, ∀ before, moment.before.task? id = some before →
      before.isPunctual moment.before.now = true) :
    (received id trace ++ task.inFlight).map Update.message =
        Task.reports (seen id trace) ++ Task.closing task.phase ∧
      ((received id trace ++ task.inFlight).map Update.message =
          Task.conclusions (seen id trace) ++ Task.closing task.phase ↔
        ∀ kind, .brokeOff kind ∉ seen id trace) ∧
      (∀ kind, Task.begins kind (seen id trace) =
        Task.finishes kind (seen id trace) + (task.isAttempting kind).toNat) ∧
      (∀ kind, .brokeOff kind ∈ seen id trace →
        Clock.moment? final.now (task.period kind) = none) ∧
      (task.isSettled final.surroundings = true → task.supervisor.isTold = true →
        (∀ kind, task.isAttempting kind = false) → task.outbox.slot = none →
        (received id trace).map Update.message =
            Task.reports (seen id trace) ++ [Task.lastMessage] ∧
          (task.isOver = true ∨ ∃ tail, task.checker = .asking tail)) := by
  obtain ⟨initial, entries, new, follows⟩ := run.follows_new fresh present
  obtain ⟨sound, running, empty, idle⟩ := new_shape new
  rw [← follows.seen]
  have punctual : ∀ entry ∈ entries, ∀ party, entry.event = .elapsed party →
      entry.before.isPunctual entry.around.now = true := by
    intro entry member party elapsed
    obtain ⟨ticket, signal, signalled⟩ | ⟨moment, member, shows⟩ := follows.shown entry member
    · exact nomatch elapsed.symm.trans signalled
    · rw [shows.around]
      exact relieved moment member _ shows.before
  have flow := follows.run.flow_exact sound
    (follows.run.no_loss sound uncancelled attended punctual)
  rw [empty, List.nil_append, follows.seen] at flow
  have offers := follows.run.offered_reports sound running uncancelled
  have reported : (received id trace ++ task.inFlight).map Update.message =
      Task.reports (Task.seen entries) ++ Task.closing task.phase := by
    rw [← offers, follows.seen, ← flow]
    rfl
  refine ⟨reported, ?_, ?_, ?_, ?_⟩
  · rw [reported, List.append_left_inj]
    exact Task.reports_eq_conclusions_iff
  · intro kind
    have accounts := follows.run.accounts kind
    rwa [idle kind, Bool.toNat_false, Nat.add_zero] at accounts
  · intro kind broke
    exact run.brokeOff follows (follows.seen ▸ broke)
  · intro settled told rests taken
    have attempts : ∀ kind stage, task.attempter kind ≠ .attempting stage :=
      fun kind => Task.isAttempting_eq_false.mp (rests kind)
    obtain ⟨confirmed, nothing, past⟩ := Task.confirmed_of_settled (follows.run.sound sound) settled
      uncancelled told attempts taken
    rw [nothing, List.append_nil, confirmed] at reported
    exact ⟨reported, past⟩

/-- Whether no loop of the task has ever waited with an update for as long as it may. -/
def isRelieved (id : Nat) (trace : List Moment) : Bool :=
  trace.all fun moment => (moment.before.task? id).all (·.isPunctual moment.before.now)

theorem punctual_of_isRelieved (relieved : isRelieved id trace = true) :
    ∀ moment ∈ trace, ∀ before, moment.before.task? id = some before →
      before.isPunctual moment.before.now = true := by
  intro moment member before present
  have punctual := List.all_eq_true.mp relieved moment member
  rwa [present] at punctual

/-- Both failures of that run are reported, and the confirmation follows. -/
theorem attempts_are_reported_small : ∃ trace final task, Run (small quickTicks 0) trace final ∧
    final.task? 0 = some task ∧
      (received 0 trace).map Update.message =
        Task.conclusions (seen 0 trace) ++ [Task.lastMessage] ∧
      (Task.conclusions (seen 0 trace)).length = 2 := by
  obtain ⟨trace, final, task, run, present, checked⟩ :
      ∃ trace final task, Run (small quickTicks 0) trace final ∧ final.task? 0 = some task ∧
        decide ((task.cancel = false ∧ task.outbox.receiving = true ∧ isRelieved 0 trace = true) ∧
          (task.isSettled final.surroundings = true ∧ task.supervisor.isTold = true) ∧
          (∀ kind, task.isAttempting kind = false) ∧ task.outbox.slot = none ∧
          (Task.conclusions (seen 0 trace)).length = 2 ∧
          ∀ kind, Task.Effect.brokeOff kind ∉ seen 0 trace) = true :=
    @exists_run confirmedSmall _ _ _ (by decide)
  obtain ⟨⟨uncancelled, attended, relieved⟩, ⟨settled, told⟩, idle, taken, two, unbroken⟩ :=
    of_decide_eq_true checked
  obtain ⟨-, -, -, -, last⟩ := run.attempts_are_reported (fresh_small _ _) present
    uncancelled attended (punctual_of_isRelieved relieved)
  obtain ⟨all, -⟩ := last settled told idle taken
  refine ⟨trace, final, task, run, present, ?_, two⟩
  rw [all, Task.reports_eq_conclusions_iff.mpr unbroken]

/-- Settings under which there is no moment for a second promotion. They are valid. -/
def onePromotion : ConfirmerConfig :=
  { promoteEverySeconds := 18446744073709551615, promoteTickMilliseconds := 100 }

/-- A promotion up to the point at which a node has attached its trytes. -/
def attachingEvents : List Event :=
  [.task 0 (.entered .checker), .task 0 (.granted .checker), .task 0 (.entered .promoter),
    .task 0 (.entered .reattacher), .task 0 (.entered .supervisor), .poller (.pollerEntered 1),
    .timePassed 100_000_000, .task 0 (.elapsed .promoter), .task 0 (.granted .promoter),
    .legEnded 1 0 (.replied (.trytes [])), .callReturned 1,
    .legEnded 2 0 (.replied (.tips ⟨.null, .null⟩)), .callReturned 2,
    .legEnded 3 0 (.replied (.trytes [blankText transactionLength]))]

/-- The system at that point. -/
def attachingSystem : System :=
  (((small onePromotion 1_000_000_000).replay attachingEvents).get (by decide)).2

/-- The call by which the trytes come back. -/
def attachedCall : CallRecord :=
  (attachingSystem.call? 3).get (by decide)

/-- The system without that call. -/
def attachedSystem : System :=
  attachingSystem.setCall { attachedCall with owner := none }

/-- The task to which they come back. -/
def attachingTask : TaskRecord :=
  attachedSystem.tasks[0]?.get (by decide)

/-- The task when it goes on to broadcast them. -/
def broadcastingTask : Task :=
  attachingTask.task.place .promotion
    (.attempting (.broadcasting [blankText transactionLength] (.blank transactionLength)))

/-- What the return of that call makes of the system. -/
def broadcastingTurn : Turn :=
  carryOut (serveTask attachingTask.engine 0 .null) (attachedSystem.setTask 0 broadcastingTask)
    [.call .promoter .general (.storeAndBroadcast [blankText transactionLength])]

/-- A node broadcasts them, and the loop breaks off: the promotion has succeeded, and neither has
its consumer received anything nor is anything on its way, although the task is not cancelled. -/
theorem success_without_report : (∃ address, onePromotion.validate = .ok address) ∧
    ∃ trace final task, Run (small onePromotion 1_000_000_000) trace final ∧
      final.task? 0 = some task ∧ task.cancel = false ∧ task.outbox.receiving = true ∧
      isRelieved 0 trace = true ∧ Task.conclusions (seen 0 trace) = [(.promote, none)] ∧
      received 0 trace = [] ∧ task.inFlight = [] := by
  have verdict : attachedCall.call.verdict =
      some (.answered ⟨.trytes [blankText transactionLength], "node", 0⟩) := rfl
  have stands : attachingTask.task.attempter .promotion = .attempting .attaching := by decide
  have moved : Task.Move attachedSystem.surroundings attachingTask.task (.answered .promoter
      (.answered ⟨.trytes [blankText transactionLength], "node", 0⟩)) (broadcastingTask,
        [.call .promoter .general (.storeAndBroadcast [blankText transactionLength])]) :=
    .answered stands (.attached (tailOf_blank []) fun other => nomatch other.1)
  have returned : attachingSystem.step (.callReturned 3) = some broadcastingTurn :=
    step_callReturned (Option.some_get _).symm (by decide) verdict (Option.some_get _).symm moved
  have attached := (run_replay (by decide)).step returned
  have broadcast := @run_replay [.legEnded 4 0 (.replied .done), .callReturned 4]
    broadcastingTurn.1 (by decide)
  refine ⟨⟨.null, by decide⟩, _, _, _, attached.trans broadcast,
    (Option.some_get (by decide)).symm, ?_⟩
  decide

end Inclusion.System
