import Inclusion.Proofs.System.Teardown
import Inclusion.Proofs.System.Withdrawal
import Inclusion.Proofs.Task.Census

/-!
# What is left of a task when its cancellation returns

The call that cancels a task returns when the supervisor has ended, whenever it was made and
wherever the loops were then. No loop of the task is live at that moment. It has no registration and
no call under way, and its engine works on another task if on any. Of its updates no more is left
than the one that is put before the consumer. The registrations of others are where they were,
unless somebody has withdrawn them.
-/

namespace Inclusion.System

/-- Whether the call that cancels a task returns, which it does as soon as the supervisor has
ended. -/
def cancelReturns (system : System) (id : Nat) : Bool :=
  (system.task? id).any Task.isOver

variable {start final last : System} {trace after : List Moment} {id engine : Nat} {task : Task}

/-- A supervisor on its way to the end has no registration pending. -/
theorem Accounts.unregistered (accounts : final.Accounts) (present : final.task? id = some task)
    (ends : task.supervisor.isEnding = true) {bundle : Hash} {registration : Registration Watcher}
    (pending : registration ∈ final.monitor.pending bundle) :
    registration.watcher ≠ .supervisor id := by
  intro own
  have waits : (bundle, registration) ∈ ofTask id final.monitor.waiting :=
    mem_ofTask.mpr ⟨(Monitor.mem_waiting accounts.sound.tidy).mpr pending, own⟩
  have owns := accounts.enrolled id
  rw [present] at owns
  generalize ofTask id final.monitor.waiting = registrations at owns waits
  generalize ofTask id final.callbacks = untold at owns
  cases owns with
  | pending stands =>
    rw [stands] at ends
    cases ends
  | starting | untold | told | ending => cases waits

/-- A loop that does not wait for a node has no call under way. -/
theorem Run.asked_eq_nil (run : Run start trace final) (new : start.IsNew)
    (present : final.task? id = some task) {party : Party} (idle : task.isAsking party = false) :
    final.asked (.loop id party) = [] := by
  obtain ⟨moment, member, trytes, initial, entries, starts, origin, follows, said⟩ :=
    run.alive new present
  have attentive := follows.run.attentive (attentive_of_isNew origin.isNew) party
  rw [said, idle] at attentive
  have awaited := (run.converses new).awaited id party
  rw [Option.not_isSome_iff_eq_none.mp (Bool.eq_false_iff.mp attentive), awaited_eq] at awaited
  exact List.map_eq_nil_iff.mp (List.sublist_nil.mp awaited)

/-- Whatever happens when a task is over, it stays so. It calls no node any more, and its consumer
receives no more than what is left for it. -/
theorem Run.nothing_after_end (run : Run start trace final) (new : start.IsNew)
    (present : final.task? id = some task) (past : task.isOver = true)
    (later : Run final after last) :
    ∃ heard, last.task? id = some heard ∧ heard.isOver = true ∧
      (∀ party, last.asked (.loop id party) = []) ∧
      (∀ party role request, .call party role request ∉ seen id after) ∧
      (received id after ++ heard.outbox.slot.toList).Sublist task.outbox.slot.toList := by
  have sound := run.sound new present
  obtain ⟨entries, heard, follows, there⟩ := later.follows present
  obtain ⟨ended, delivered⟩ := follows.run.delivered_of_over sound past
  have heard_sound := follows.run.sound sound
  refine ⟨heard, there, ended, fun party => ?_, fun party role request called => ?_, ?_⟩
  · refine (run.trans later).asked_eq_nil new there ?_
    obtain ⟨supervisor, checker, attempter⟩ := heard_sound.done_of_over ended
    cases party with
    | checker => simp [Task.isAsking, checker]
    | promoter => simp [Task.isAsking, Task.isAttempting, attempter]
    | reattacher => simp [Task.isAsking, Task.isAttempting, attempter]
    | supervisor => rfl
  · obtain ⟨update, ⟨⟩⟩ := delivered _ (follows.seen ▸ called)
  · have flow := follows.run.flow_sublist sound
    rwa [(follows.run.over sound (of_decide_eq_true past)).1, List.append_nil,
      sound.inFlight_of_over (of_decide_eq_true past),
      heard_sound.inFlight_of_over (of_decide_eq_true ended), follows.seen] at flow

/-- Whenever the call that cancels a task returns, however the task has come to its end, none of its
loops is live and the monitor holds no registration of it. Every other registration that nobody has
withdrawn is pending or completed. The engine is not at work on the task: if it is running, then on
a later task, or because a later start of it broke off at a time that does not exist. From then on
the task calls no node and waits for none, and its consumer receives at most the one update that was
left, and then the end. -/
theorem Run.cancel_joins (run : Run start trace final) (fresh : start.IsSetUp)
    (unused : start.monitor.IsNew) (nobody : start.callbacks = [])
    (own : final.engine? id = some engine) (returns : final.cancelReturns id = true) :
    ∃ task, final.task? id = some task ∧ (∀ party, task.isLive party = false) ∧
      (∀ bundle, ∀ registration ∈ final.monitor.pending bundle,
        registration.watcher ≠ .supervisor id) ∧
      (∀ item ∈ made trace, (∀ moment ∈ trace, ¬moment.Withdraws item) →
        item.2 ∈ final.monitor.pending item.1 ∨ item ∈ completed trace) ∧
      (final.isRunning engine = true →
        (∃ later > id, final.WorksOn engine later) ∨ Overflowed trace engine) ∧
      ∀ after last, Run final after last → ∃ heard, last.task? id = some heard ∧
        heard.isOver = true ∧ (∀ party, last.asked (.loop id party) = []) ∧
        (∀ party role request, .call party role request ∉ seen id after) ∧
        (received id after ++ heard.outbox.slot.toList).Sublist task.outbox.slot.toList := by
  have new := fresh.toIsNew
  obtain ⟨task, present, past⟩ : ∃ task, final.task? id = some task ∧ task.isOver = true := by
    simpa [cancelReturns, Option.any_eq_true] using returns
  have sound := run.sound new present
  have ends : task.supervisor.isEnding = true := by
    rw [(sound.done_of_over past).1]
    rfl
  have accounts := run.accounts new unused nobody
  exact ⟨task, present, sound.isLive_of_over past,
    fun bundle registration pending => accounts.unregistered present ends pending,
    fun item makes kept => run.pending_or_completed new unused nobody makes kept,
    fun running => (run.employs fresh).2.later own present past running,
    fun after last later => run.nothing_after_end new present past later⟩

/-- A run of the small system in which somebody else waits for the bundle and the task is cancelled
during a promotion, up to the end of the task. The node fails both of its calls. -/
def cancelledJoining : List Event :=
  let down : Outcome := .failed (.http "down")
  [.register .null (.waiter 5), .task 0 (.entered .checker), .task 0 (.granted .checker),
    .task 0 (.entered .promoter), .task 0 (.entered .reattacher), .task 0 (.entered .supervisor),
    .poller (.pollerEntered 1), .timePassed 100_000_000, .task 0 (.elapsed .promoter),
    .task 0 (.granted .promoter), .task 0 (.elapsed .reattacher), .cancel 0, .task 0 .cancelSeen,
    .legEnded 1 0 down, .callReturned 1, .task 0 (.granted .reattacher),
    .task 0 (.granted .supervisor), .task 0 (.halted .promoter), .task 0 (.halted .reattacher),
    .legEnded 0 0 down, .callReturned 0, .task 0 (.halted .checker), .task 0 .joined]

/-- The other registration is the one that is left, and the consumer receives nothing any more. -/
theorem cancel_joins_cancelledJoining : ∃ trace final task, Run (idle quickTicks) trace final ∧
    final.task? 0 = some task ∧ (∀ party, task.isLive party = false) ∧
      (removed trace).map (fun item => item.2) = [⟨2, .supervisor 0⟩] ∧
      final.monitor.pending .null = [⟨1, .waiter 5⟩] ∧ final.isRunning 0 = false ∧
      ∀ after last, Run final after last → received 0 after = [] := by
  obtain ⟨trace, final, task, run, present, checked⟩ :
      ∃ trace final task, Run (idle quickTicks) (startMoment quickTicks :: trace) final ∧
        final.task? 0 = some task ∧ decide (
          (final.engine? 0 = some 0 ∧ final.cancelReturns 0 = true) ∧
          (removed (startMoment quickTicks :: trace)).map (fun item => item.2) =
            [⟨2, .supervisor 0⟩] ∧
          final.monitor.pending .null = [⟨1, .waiter 5⟩] ∧ final.isRunning 0 = false ∧
          task.outbox.slot = none) = true :=
    @exists_engaged_run quickTicks (.ofSeconds 900) cancelledJoining _ (by decide) (by decide)
      (by decide +kernel)
  obtain ⟨⟨own, returns⟩, removed, pending, idle, taken⟩ := of_decide_eq_true checked
  obtain ⟨again, there, live, -, -, -, later⟩ :=
    run.cancel_joins (isSetUp_idle _) ⟨rfl, rfl, rfl⟩ rfl own returns
  obtain rfl := Option.some.inj (there.symm.trans present)
  refine ⟨_, final, again, run, present, live, removed, pending, idle, fun after last goes_on => ?_⟩
  obtain ⟨heard, -, -, -, -, received⟩ := later after last goes_on
  rw [taken] at received
  exact (List.append_eq_nil_iff.mp (List.sublist_nil.mp received)).1

end Inclusion.System
