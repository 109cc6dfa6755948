import Inclusion.Proofs.System.Updates
import Inclusion.Proofs.Task.Cancellation

/-!
# What a cancelled task still does

A cancelled task is meant to begin nothing and to wait for no consumer. Whatever else goes on in the
system, both hold but for one case each. A loop that was ahead of the supervisor in the line for the
lock when the loops were told to end may still begin one attempt, and does so if the attempt is due
when it gets the lock. And if the supervisor has noticed the confirmation before the cancellation,
it stands in line behind the loop that waits for the consumer, which nobody then releases before its
time is up.
-/

namespace Inclusion.System

variable {start middle final : System} {before after trace : List Moment} {id : Nat}
  {stopped task : Task}

/-- A moment at which a loop ahead of the supervisor gets the lock and finds an attempt due. -/
def Moment.Admits (moment : Moment) (id : Nat) (kind : AttemptKind) : Prop :=
  moment.event = .task id (.granted kind.party) ∧ ∃ task, moment.before.task? id = some task ∧
    task.isAhead kind = true ∧ task.isDue moment.before.now kind = true

/-- An attempt begins at such a moment. -/
theorem Run.began_of_admits (run : Run start trace final) {kind : AttemptKind} {moment : Moment}
    (member : moment ∈ trace) (admits : moment.Admits id kind) : .began kind ∈ seen id trace := by
  obtain ⟨granted, task, present, ahead, due⟩ := admits
  obtain ⟨next, stepped⟩ := run.stepped member
  rw [granted] at stepped
  obtain ⟨-, stepped⟩ := Option.ite_none_right_eq_some.mp stepped
  obtain ⟨found, after, effects, carried⟩ := carried_of_stepTask rfl stepped
  obtain rfl := Option.some.inj (carried.present.symm.trans present)
  have began := carried.move.began_of_isAhead ahead due
  have shown := carried.seen id
  rw [if_pos rfl] at shown
  exact List.mem_flatMap.mpr ⟨moment, member, by rwa [shown]⟩

/-- An attempt begins at such a moment only. -/
theorem Follows.admits {initial last : Task} {entries : List Task.Entry}
    (follows : Follows id trace initial entries last) {kind : AttemptKind}
    (began : .began kind ∈ System.seen id trace) : ∃ moment ∈ trace, moment.Admits id kind := by
  rw [← follows.seen] at began
  obtain ⟨entry, member, began⟩ := Task.mem_seen.mp began
  obtain ⟨next, move⟩ := follows.run.moved member
  obtain ⟨granted, -, -, -, due, -⟩ := move.began_inv began
  have ahead := (move.began_ahead began).1
  obtain ⟨ticket, signal, signalled⟩ | ⟨moment, there, shows⟩ := follows.shown entry member
  · exact nomatch granted.symm.trans signalled
  · refine ⟨moment, there, ?_, entry.before, shows.before, ahead, ?_⟩
    · have carries := shows.carries
      rw [granted] at carries
      generalize moment.event = event at carries ⊢
      cases carries
      rfl
    · rw [shows.around] at due
      exact due

/-- After the loops of a task have been told to end, at most one attempt of each kind begins, and
none but by a loop that was ahead of the supervisor in the line by then. It begins exactly if the
attempt is due when the loop gets the lock. A loop that is not ahead and makes no attempt calls no
node any more. -/
theorem Run.begins_after_stop (run : Run start before middle) (fresh : start.Fresh id)
    (present : middle.task? id = some stopped) (told : stopped.stop = true)
    (later : Run middle after final) (kind : AttemptKind) :
    Task.begins kind (seen id after) ≤ (stopped.isAhead kind).toNat ∧
      (0 < Task.begins kind (seen id after) ↔ ∃ moment ∈ after, moment.Admits id kind) ∧
      (stopped.isAhead kind = false → stopped.isAttempting kind = false →
        ∀ role request, .call kind.party role request ∉ seen id after) := by
  obtain ⟨initial, entries, new, follows⟩ := run.follows_new fresh present
  obtain ⟨sound, -, -, -⟩ := new_shape new
  have sound := follows.run.sound sound
  obtain ⟨entries, last, follows, -⟩ := later.follows present
  refine ⟨?_, ?_, ?_⟩
  · rw [← follows.seen]
    exact Nat.le_of_add_right_le (follows.run.begins_le kind sound told)
  · rw [Task.begins, List.count_pos_iff]
    constructor
    · exact follows.admits
    · rintro ⟨moment, member, admits⟩
      exact later.began_of_admits member admits
  · intro behind idle
    rw [← follows.seen]
    exact (follows.run.no_calls sound told behind idle).1

/-- A run of the small system up to a cancellation that the supervisor notices while nothing is
under way but a check of the tail. -/
def cancelledIdle : List Event :=
  [.task 0 (.entered .checker), .task 0 (.granted .checker), .task 0 (.entered .promoter),
    .task 0 (.entered .reattacher), .task 0 (.entered .supervisor), .poller (.pollerEntered 1),
    .cancel 0, .task 0 .cancelSeen]

/-- The task comes to its end, and neither loop calls a node. -/
theorem begins_after_stop_small : ∃ before middle stopped after final,
    Run (small quickTicks 0) before middle ∧ middle.task? 0 = some stopped ∧
      stopped.stop = true ∧ Run middle after final ∧
      ((final.task? 0).map Task.isOver = some true) ∧
      ∀ kind, Task.begins kind (seen 0 after) = 0 ∧
        ∀ role request, .call kind.party role request ∉ seen 0 after := by
  obtain ⟨before, middle, stopped, after, final, run, present, later, checked⟩ :
      ∃ before middle stopped after final, Run (small quickTicks 0) before middle ∧
        middle.task? 0 = some stopped ∧ Run middle after final ∧
        decide (stopped.stop = true ∧ (final.task? 0).map Task.isOver = some true ∧
          ∀ kind, stopped.isAhead kind = false ∧ stopped.isAttempting kind = false) = true :=
    @exists_runs cancelledIdle [.task 0 (.granted .supervisor), .task 0 (.halted .promoter),
      .task 0 (.halted .reattacher), .legEnded 0 0 (.failed (.http "down")), .callReturned 0,
      .task 0 (.halted .checker), .task 0 .joined] _ _ _ (by decide)
  obtain ⟨told, past, behind⟩ := of_decide_eq_true checked
  refine ⟨before, middle, stopped, after, final, run, present, told, later, past, fun kind => ?_⟩
  obtain ⟨bound, -, silent⟩ := run.begins_after_stop (fresh_small _ _) present told later kind
  rw [(behind kind).1] at bound
  exact ⟨Nat.le_zero.mp bound, silent (behind kind).1 (behind kind).2⟩

/-- A run of the small system up to a cancellation that the supervisor notices during a
reattachment, while the other loop waits for the lock. -/
def cancelledBehind : List Event :=
  [.task 0 (.entered .checker), .task 0 (.granted .checker), .task 0 (.entered .promoter),
    .task 0 (.entered .reattacher), .task 0 (.entered .supervisor), .poller (.pollerEntered 1),
    .timePassed 100_000_000, .task 0 (.elapsed .reattacher), .task 0 (.granted .reattacher),
    .task 0 (.elapsed .promoter), .cancel 0, .task 0 .cancelSeen]

/-- When the reattachment has failed, a promotion begins with a call to a node. -/
theorem begins_although_stopped : ∃ before middle stopped after final,
    Run (small quickTicks 0) before middle ∧ middle.task? 0 = some stopped ∧
      Run middle after final ∧ stopped.cancel = true ∧ stopped.stop = true ∧
      stopped.isAttempting .promotion = false ∧ .began .promotion ∈ seen 0 after ∧
      .call .promoter .general (.prepareTransfers Hash.null.text
        [⟨.null, 0, "PROMOTE", ""⟩] 2) ∈ seen 0 after := by
  obtain ⟨before, middle, stopped, after, final, run, present, later, checked⟩ :
      ∃ before middle stopped after final, Run (small quickTicks 0) before middle ∧
        middle.task? 0 = some stopped ∧ Run middle after final ∧
        decide (stopped.cancel = true ∧ stopped.stop = true ∧
          stopped.isAttempting .promotion = false ∧ .began .promotion ∈ seen 0 after ∧
          .call .promoter .general (.prepareTransfers Hash.null.text
            [⟨.null, 0, "PROMOTE", ""⟩] 2) ∈ seen 0 after) = true :=
    @exists_runs cancelledBehind [.legEnded 1 0 (.failed (.http "down")), .callReturned 1,
      .task 0 (.granted .promoter)] _ _ _ (by decide)
  exact ⟨before, middle, stopped, after, final, run, present, later, of_decide_eq_true checked⟩

/-- When a cancelled task is settled, a loop waits for the consumer exactly if the supervisor has
noticed the confirmation first and no attempt is under way. The loop has not been told to end, and
waits until its time is up or the consumer makes room. -/
theorem Run.waits_after_cancel (run : Run start trace final) (fresh : start.Fresh id)
    (present : final.task? id = some task) (settled : final.isSettled = true)
    (cancelled : task.cancel = true) :
    ((∃ party, (task.waiting? party).isSome = true) ↔
        task.supervisor = .queuedToConfirm ∧ ∀ kind, task.isAttempting kind = false) ∧
      ∀ party update deadline, task.waiting? party = some (update, deadline) →
        final.now < deadline ∧ task.stop = false ∧ task.outbox.slot.isSome = true ∧
          task.outbox.receiving = true := by
  obtain ⟨initial, entries, new, follows⟩ := run.follows_new fresh present
  obtain ⟨sound, -, -, -⟩ := new_shape new
  have sound := follows.run.sound sound
  have settled := task_isSettled present settled
  refine ⟨?_, ?_⟩
  · rw [Task.waiting_iff_of_settled sound settled cancelled]
    exact and_congr_right fun _ => forall_congr' fun kind => Task.isAttempting_eq_false.symm
  · intro party update deadline waiting
    exact (Task.sending_of_waiting settled cancelled waiting).2

/-- A run of the small system until a second update waits, while the consumer has not taken the
first. -/
def blockedSmall : List Event :=
  let loop (event : Task.Event) : Event := .task 0 event
  let down : Outcome := .failed (.http "down")
  [loop (.entered .checker), loop (.granted .checker), loop (.entered .promoter),
    loop (.entered .reattacher), loop (.entered .supervisor), .poller (.pollerEntered 1),
    .timePassed 100_000_000, loop (.elapsed .reattacher), loop (.granted .reattacher),
    loop (.elapsed .promoter), .legEnded 1 0 down, .callReturned 1, loop (.sent .reattacher),
    loop (.granted .promoter), .legEnded 2 0 down, .callReturned 2]

/-- A cancellation releases the loop with the second update. -/
theorem waits_after_cancel_small : ∃ trace final task, Run (small quickTicks 0) trace final ∧
    final.task? 0 = some task ∧ task.cancel = true ∧ final.isSettled = true ∧
      final.now = 100_000_000 ∧
      ∀ party, task.waiting? party = none := by
  obtain ⟨trace, final, task, run, present, checked⟩ :
      ∃ trace final task, Run (small quickTicks 0) trace final ∧ final.task? 0 = some task ∧
        decide (task.cancel = true ∧ final.isSettled = true ∧ final.now = 100_000_000 ∧
          task.supervisor ≠ .queuedToConfirm) = true :=
    @exists_run (blockedSmall ++ [.cancel 0, .task 0 .cancelSeen, .task 0 (.halted .promoter),
      .task 0 (.granted .supervisor), .task 0 (.halted .promoter), .task 0 (.halted .reattacher),
      .poller (.pollerWoken 1), .poller (.pollerLooked 1), .poller (.pollerLeft 1)]) _ _ _
      (by decide)
  obtain ⟨cancelled, settled, now, elsewhere⟩ := of_decide_eq_true checked
  refine ⟨trace, final, task, run, present, cancelled, settled, now, fun party => ?_⟩
  obtain ⟨waits, -⟩ := run.waits_after_cancel (fresh_small _ _) present settled cancelled
  by_contra waiting
  exact elsewhere (waits.mp ⟨party, Option.isSome_iff_ne_none.mpr waiting⟩).1

/-- If the confirmation comes first, a cancellation does not release it: it may wait for a minute
more. -/
theorem waits_although_cancelled : ∃ trace final task, Run (small quickTicks 0) trace final ∧
    final.task? 0 = some task ∧ task.cancel = true ∧ final.isSettled = true ∧
      final.now = 100_000_000 ∧
      ∃ update, task.waiting? .promoter = some (update, 100_000_000 + 60_000_000_000) := by
  obtain ⟨trace, final, task, run, present, checked⟩ :
      ∃ trace final task, Run (small quickTicks 0) trace final ∧ final.task? 0 = some task ∧
        decide (task.cancel = true ∧ final.isSettled = true ∧ final.now = 100_000_000 ∧
          (task.waiting? .promoter).map Prod.snd = some (100_000_000 + 60_000_000_000)) = true :=
    @exists_run (blockedSmall ++ [.notifyConfirmed .null, .callbackRun, .task 0 .confirmSeen,
      .poller (.pollerWoken 1), .poller (.pollerLooked 1), .poller (.pollerLeft 1), .cancel 0])
      _ _ _ (by decide)
  obtain ⟨cancelled, settled, now, waits⟩ := of_decide_eq_true checked
  obtain ⟨⟨update, deadline⟩, waiting, same⟩ := Option.map_eq_some_iff.mp waits
  obtain rfl : deadline = 100_000_000 + 60_000_000_000 := same
  exact ⟨trace, final, task, run, present, cancelled, settled, now, update, waiting⟩

end Inclusion.System
