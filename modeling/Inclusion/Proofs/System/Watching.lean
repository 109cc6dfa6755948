import Inclusion.Proofs.System.Confirmation
import Inclusion.Proofs.System.Enrolment
import Inclusion.Proofs.System.Teardown

/-!
# That a task at work is watched

As long as a task is neither told of the confirmation nor cancelled its supervisor stands by a
registration. Somebody outside may remove that registration with all others of the hash, at any time
and any number of times. The supervisor is told, and registers anew before the system settles. So in
a settled system it has exactly one registration pending, and the hash has a live poller.
-/

namespace Inclusion

/-- A task is cancelled only by somebody's request. -/
theorem Task.Course.Step.cancel_inv {event : Task.Event} {course next : Task.Course}
    (step : Task.Course.Step event course next) (cancelled : next.cancel = true) :
    course.cancel = true ∨ event = .cancelRequested := by
  cases step with
  | cancelRequested => exact .inr rfl
  | kept | registered | signalled | confirmSeen | cancelSeen | confirmed | cancelled | announced
  | joined => exact .inl cancelled

theorem Task.Run.cancel_inv {start final : Task} {entries : List Task.Entry}
    (run : Task.Run start entries final) (cancelled : final.cancel = true) :
    start.cancel = true ∨ ∃ entry ∈ entries, entry.event = .cancelRequested := by
  induction run with
  | refl => exact .inl cancelled
  | step prior move inductionHypothesis =>
    obtain before | requested := move.course.cancel_inv cancelled
    · obtain begun | ⟨entry, member, event⟩ := inductionHypothesis before
      · exact .inl begun
      · exact .inr ⟨entry, List.mem_append_left _ member, event⟩
    · exact .inr ⟨_, List.mem_append_right _ (List.mem_singleton_self _), requested⟩

/-- Of a task that is to end either somebody has cancelled it or it has heard of the confirmation.
-/
theorem Task.hasHeard_of_isCalledOff {task : Task} (sound : task.Sound)
    (called_off : task.isCalledOff = true) : task.cancel = true ∨ task.HasHeard := by
  cases cancelled : task.cancel with
  | true => exact .inl rfl
  | false =>
    have told : task.supervisor.isTold = true := by
      simpa [Task.isCalledOff, cancelled] using called_off
    have course : task.course.Consistent := sound.course
    refine .inr ?_
    cases stands : task.supervisor with
    | starting | queuedToCancel => simp [stands, Supervisor.isTold] at told
    | watching ticket signal =>
      obtain rfl : signal = some .fired := by simpa [stands, Supervisor.isTold] using told
      exact .inr (.inr ⟨ticket, stands⟩)
    | queuedToConfirm => exact .inr (.inl stands)
    | announcing update deadline =>
      rw [Course.Consistent, show task.course.supervisor = _ from stands] at course
      exact .inl course.1
    | joining =>
      obtain ⟨confirmed | ⟨-, again⟩, -⟩ := course.ended (.inl stands)
      · exact .inl confirmed
      · cases cancelled.symm.trans again
    | done =>
      obtain ⟨confirmed | ⟨-, again⟩, -⟩ := course.ended (.inr stands)
      · exact .inl confirmed
      · cases cancelled.symm.trans again

namespace System

variable {start final system : System} {trace : List Moment} {id ticket : Nat} {task : Task}

/-! ## Who is to end -/

/-- A task is to end only if somebody has cancelled it or its supervisor was told of the
confirmation. -/
theorem Run.calledOff_inv (run : Run start trace final) (new : start.IsNew)
    (present : final.task? id = some task) (called_off : task.isCalledOff = true) :
    (∃ moment ∈ trace, moment.event = .cancel id) ∨
      ∃ item ∈ told trace, item.2.watcher = .supervisor id := by
  obtain cancelled | heard := Task.hasHeard_of_isCalledOff (run.sound new present) called_off
  · left
    obtain ⟨initial, entries, initial_new, follows⟩ :=
      run.follows_new (fresh_of_no_tasks new.tasks id) present
    obtain begun | ⟨entry, member, requested⟩ := follows.run.cancel_inv cancelled
    · obtain ⟨setup, tail, trytes, now, forced, rfl⟩ := initial_new
      cases begun
    · obtain ⟨ticket, signal, signalled⟩ | ⟨moment, there, shows⟩ := follows.shown entry member
      · exact nomatch requested.symm.trans signalled
      · refine ⟨moment, there, ?_⟩
        have carries := shows.carries
        rw [requested] at carries
        generalize moment.event = event at carries ⊢
        cases carries with
        | own own => simp [Task.ownEvents, Task.parties] at own
        | cancel => rfl
  · exact .inr (run.told_of_heard new present heard)

/-! ## Settled systems -/

/-- Whoever has a single registration of all has it pending for its hash. -/
theorem pending_of_ofTask {registration : Registration Watcher} {bundle : Hash}
    (tidy : Monitor.Tidy system.monitor.entries)
    (own : ofTask id system.monitor.waiting = [(bundle, registration)]) :
    ((system.monitor.pending bundle).filter fun other => other.watcher = .supervisor id) =
      [registration] := by
  have waits : (bundle, registration) ∈ ofTask id system.monitor.waiting := own ▸ .head _
  obtain ⟨waits, watcher⟩ := mem_ofTask.mp waits
  have pending := (Monitor.mem_waiting tidy).mp waits
  have parts := (Monitor.waiting_forget_pending tidy bundle).filter
    fun item => item.2.watcher = .supervisor id
  rw [← ofTask, ← ofTask, own, ofTask_append] at parts
  obtain ⟨-, here⟩ | ⟨-, nobody⟩ :=
    List.append_eq_singleton_iff.mp (List.singleton_perm.mp parts).symm
  · rw [ofTask, List.filter_map] at here
    obtain ⟨other, only, same⟩ := List.map_eq_singleton_iff.mp here
    obtain rfl := (Prod.mk.inj same).2
    exact only
  · have here : (bundle, registration) ∈
        ofTask id ((system.monitor.pending bundle).map (bundle, ·)) :=
      mem_ofTask.mpr ⟨List.mem_map_of_mem pending, watcher⟩
    rw [nobody] at here
    cases here

/-- In every settled system the supervisor of every task that is neither cancelled nor told of the
confirmation has exactly one registration pending, under the hash of its bundle, and the hash has a
live poller. That is so whoever else has registered for the hash, and however often somebody has
removed all its registrations. -/
theorem Run.always_watched (run : Run start trace final) (new : start.IsNew)
    (unused : start.monitor.IsNew) (nobody : start.callbacks = [])
    (settled : final.isSettled = true) (present : final.task? id = some task)
    (wanted : task.isCalledOff = false) :
    ∃ ticket, task.supervisor = .watching ticket none ∧
      ((final.monitor.pending task.setup.bundle).filter fun registration =>
        registration.watcher = .supervisor id) = [⟨ticket, .supervisor id⟩] ∧
      (∀ bundle, ∀ registration ∈ final.monitor.pending bundle,
        registration.watcher = .supervisor id → bundle = task.setup.bundle) ∧
      ∃ poller ∈ final.monitor.pollers, poller.isLive = true ∧
        poller.bundle = task.setup.bundle ∧
        final.monitor.records.lookup task.setup.bundle = some poller.id := by
  obtain ⟨sound, enrolled⟩ := run.accounts new unused nobody
  obtain ⟨ticket, stands⟩ := Task.watching_of_settled (run.sound new present)
    (task_isSettled present settled) wanted
  -- Nobody is in line, so the registration is pending.
  have own : ofTask id final.monitor.waiting =
      [(task.setup.bundle, ⟨ticket, .supervisor id⟩)] := by
    have owns := enrolled id
    rw [present, no_callbacks_of_settled settled] at owns
    generalize ofTask id final.monitor.waiting = pending at owns ⊢
    generalize still : ofTask id [] = untold at owns
    cases owns with
    | pending again =>
      obtain ⟨rfl, -⟩ := Supervisor.watching.inj (stands.symm.trans again)
      rfl
    | starting again => exact nomatch stands.symm.trans again
    | untold => cases still
    | told again => exact nomatch stands.symm.trans again
    | ending ends =>
      rw [stands] at ends
      cases ends
  have alone := pending_of_ofTask sound.tidy own
  have pending : ⟨ticket, .supervisor id⟩ ∈ final.monitor.pending task.setup.bundle :=
    List.mem_of_mem_filter (alone ▸ List.mem_singleton_self _)
  obtain ⟨poller, alive, same⟩ :=
    sound.exists_live ((Monitor.isWatching_iff sound.tidy).mpr (List.ne_nil_of_mem pending))
  obtain ⟨member, live⟩ := Monitor.mem_live.mp alive
  refine ⟨ticket, stands, alone, fun bundle registration waits watcher => ?_,
    poller, member, live, same, same ▸ sound.recorded alive⟩
  have one : (bundle, registration) ∈ ofTask id final.monitor.waiting :=
    mem_ofTask.mpr ⟨(Monitor.mem_waiting sound.tidy).mpr waits, watcher⟩
  rw [own] at one
  exact (Prod.mk.inj (List.mem_singleton.mp one)).1

/-- While a task waits for a node somebody else registers for its bundle, and then somebody removes
all registrations of it. The supervisor registers anew, and the poller goes on. -/
def watchedAnew : List Event :=
  [.task 0 (.entered .checker), .task 0 (.granted .checker), .task 0 (.entered .promoter),
    .task 0 (.entered .reattacher), .task 0 (.entered .supervisor), .register .null (.waiter 5),
    .cancelPolling .null, .task 0 .dropSeen, .poller (.pollerEntered 1), .poller (.pollerWoken 1),
    .poller (.pollerLooked 1)]

/-- The third registration is the one that is pending then. -/
theorem always_watched_watchedAnew : ∃ trace final task poller,
    Run (idle quickTicks) trace final ∧ final.task? 0 = some task ∧
      (removed trace).map (fun item => item.2.id) = [1, 2] ∧
      task.supervisor = .watching 3 none ∧ poller ∈ final.monitor.pollers ∧
      poller.isLive = true ∧ poller.bundle = .null := by
  obtain ⟨trace, final, task, run, present, checked⟩ :
      ∃ trace final task, Run (idle quickTicks) (startMoment quickTicks :: trace) final ∧
        final.task? 0 = some task ∧ decide (
          (final.isSettled = true ∧ task.isCalledOff = false) ∧ task.setup.bundle = .null ∧
          (removed (startMoment quickTicks :: trace)).map (fun item => item.2.id) = [1, 2] ∧
          task.supervisor = .watching 3 none) = true :=
    @exists_engaged_run quickTicks (.ofSeconds 900) watchedAnew _ (by decide) (by decide)
      (by decide +kernel)
  obtain ⟨⟨settled, wanted⟩, bundle, removed, stands⟩ := of_decide_eq_true checked
  obtain ⟨-, -, -, -, poller, member, live, same, -⟩ :=
    run.always_watched (isNew_idle _) ⟨rfl, rfl, rfl⟩ rfl settled present wanted
  exact ⟨_, final, task, poller, run, present, removed, stands, member, live, same.trans bundle⟩

end System

end Inclusion
