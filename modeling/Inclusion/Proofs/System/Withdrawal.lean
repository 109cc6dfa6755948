import Inclusion.Proofs.System.Confirmation
import Inclusion.Proofs.System.Enrolment
import Inclusion.Proofs.System.Waiting

/-!
# Who withdraws a registration

A registration is removed when somebody outside asks for that, by its number or for all of its hash.
Apart from that it is removed only by its own supervisor, when the task has been cancelled: the
number by which a supervisor stands is that of a registration of its own, and no number is given
twice. So a registration that nobody has withdrawn is pending or completed.
-/

namespace Inclusion

/-- A task that stands by a registration after a signal has stood by it before. -/
theorem Task.Hears.watching {task heard : Task} {ticket : Nat} {signal : Option Signal}
    (hears : task.Hears heard) (stands : heard.supervisor = .watching ticket signal) :
    ∃ before, task.supervisor = .watching ticket before := by
  cases hears with
  | nothing => exact ⟨signal, stands⟩
  | signal watches =>
    obtain ⟨rfl, -⟩ := Supervisor.watching.inj stands
    exact ⟨none, watches⟩

namespace System

/-- What a step of a task comes to for its supervisor and its registrations. -/
inductive Books (system : System) (id : Nat) (task : Task) :
    Task.Event → Task → List (Monitor.Effect Watcher) → Prop where
  | registered {event} : Books system id task event (task.register system.surroundings).1
      (system.monitor.register task.setup.bundle (.supervisor id)).2
  | withdrew {ticket signal next} (stands : task.supervisor = .watching ticket signal)
      (ends : next.supervisor.isEnding = true) :
      Books system id task .cancelSeen next
        (system.monitor.cancelRegistration task.setup.bundle ticket).2
  | apart {event next} (goes : ∀ ticket signal, next.supervisor = .watching ticket signal →
      ∃ before, task.supervisor = .watching ticket before) : Books system id task event next []

/-- Somebody withdraws a registration: by its number, with all others of its hash, or its own
supervisor, having noticed that its task is cancelled. -/
inductive Moment.Withdraws (moment : Moment) (item : Hash × Registration Watcher) : Prop where
  | cancelled (event : moment.event = .cancelRegistration item.1 item.2.id)
  | cleared (event : moment.event = .cancelPolling item.1)
  | own {id} (event : moment.event = .task id .cancelSeen)
      (watcher : item.2.watcher = .supervisor id)

variable {start system final : System} {trace : List Moment} {id ticket : Nat} {task : Task}
  {event : Event} {turn : Turn} {item : Hash × Registration Watcher}

/-! ## Steps of tasks -/

theorem monitorEffects_afterMonitor (system : System) (after : Monitor.Turn Watcher) :
    monitorEffects (system.afterMonitor after).2 = after.2 :=
  (attends_carryOut_serveMonitor { system with monitor := after.1 } after.2).2.1

theorem monitorEffects_watch (engine id : Nat) (bundle : Hash) (system : System) :
    monitorEffects (carryOut (serveTask engine id bundle) system [.watch]).2 =
      (system.monitor.register bundle (.supervisor id)).2 := by
  rw [carryOut_cons, monitorEffects_append]
  exact (List.append_nil _).trans (monitorEffects_afterMonitor system _)

theorem monitorEffects_unwatch (engine id : Nat) (bundle : Hash) (system : System) (ticket : Nat) :
    monitorEffects (carryOut (serveTask engine id bundle) system [.unwatch ticket]).2 =
      (system.monitor.cancelRegistration bundle ticket).2 := by
  rw [carryOut_cons, monitorEffects_append]
  exact (List.append_nil _).trans (monitorEffects_afterMonitor system _)

theorem books_of_stepTask {event : Task.Event} (stepped : system.stepTask id event = some turn) :
    ∃ task next heard, system.task? id = some task ∧ next.setup = task.setup ∧
      Books system id task event next (monitorEffects turn.2) ∧ next.Hears heard ∧
      turn.1.task? id = some heard := by
  obtain ⟨record, next, effects, found, move, rfl⟩ := stepTask_eq_some stepped
  have present : system.task? id = some record.task := task?_of_record found
  have setup : next.setup = record.task.setup := move.setup
  have there : (system.setTask id next).task? id = some next := by
    rw [task?_setTask, if_pos rfl, present]
    rfl
  obtain ⟨heard, hears, told⟩ := (served_carryOut record.engine id next.setup.bundle
    (system.setTask id next) effects).hears.told id next there
  refine ⟨record.task, next, heard, present, setup, ?_, hears, told⟩
  rw [setup]
  generalize turn_eq : (next, effects) = turn at move
  cases move.enlists with
  | registered =>
    obtain ⟨rfl, rfl⟩ := Prod.mk.inj turn_eq
    rw [monitorEffects_watch]
    exact .registered
  | withdrew stands cancelled ends =>
    obtain ⟨rfl, rfl⟩ := Prod.mk.inj turn_eq
    rw [monitorEffects_unwatch]
    exact .withdrew stands ends
  | @signalled ticket signal stands =>
    obtain ⟨rfl, rfl⟩ := Prod.mk.inj turn_eq
    refine .apart fun other after watches => ⟨none, ?_⟩
    rw [stands, (Supervisor.watching.inj watches).1]
  | apart silent goes =>
    subst turn_eq
    rw [(frame_carryOut_serveTask record.engine id record.task.setup.bundle _ silent).2]
    refine .apart fun ticket signal watches => ?_
    obtain same | ⟨ends, -⟩ := goes
    · exact ⟨signal, same.symm.trans watches⟩
    · rw [watches] at ends
      cases ends

/-- An event that is carried to a task is a step of it, once the call that has returned waits for
nobody any more. -/
theorem stepTask_of_carries {taskEvent : Task.Event} (carries : Carries system event id taskEvent)
    (stepped : system.step event = some turn) :
    ∃ calls, { system with calls }.stepTask id taskEvent = some turn := by
  cases carries with
  | own => exact ⟨system.calls, (Option.ite_none_right_eq_some.mp stepped).2⟩
  | @returned call record id party verdict found owner decided =>
    have delivered : (system.setCall { record with owner := none }).stepTask id
        (.answered party verdict) = some turn := by
      simpa [step, found, owner, decided, deliver] using stepped
    unfold setCall at delivered
    split at delivered
    · exact ⟨_, delivered⟩
    · exact ⟨_, delivered⟩
  | cancel | received | streamDropped => exact ⟨system.calls, stepped⟩

theorem books_of_carries {taskEvent : Task.Event} (carries : Carries system event id taskEvent)
    (stepped : system.step event = some turn) :
    ∃ task next heard, system.task? id = some task ∧ next.setup = task.setup ∧
      Books system id task taskEvent next (monitorEffects turn.2) ∧ next.Hears heard ∧
      turn.1.task? id = some heard := by
  obtain ⟨calls, stepped⟩ := stepTask_of_carries carries stepped
  obtain ⟨task, next, heard, present, setup, books, hears, told⟩ := books_of_stepTask stepped
  refine ⟨task, next, heard, present, setup, ?_, hears, told⟩
  generalize monitorEffects turn.2 = effects at books ⊢
  cases books with
  | registered => exact .registered
  | withdrew stands ends => exact .withdrew stands ends
  | apart goes => exact .apart goes

/-! ## The number by which a supervisor stands -/

/-- A supervisor comes to stand by a number when its registration is made. -/
theorem Books.watching_inv {taskEvent : Task.Event} {next : Task}
    {effects : List (Monitor.Effect Watcher)} (books : Books system id task taskEvent next effects)
    {signal : Option Signal} (watches : next.supervisor = .watching ticket signal) :
    (∃ before, task.supervisor = .watching ticket before) ∨
      (task.setup.bundle, ⟨ticket, .supervisor id⟩) ∈ Monitor.made effects := by
  cases books with
  | registered =>
    obtain ⟨rfl, -⟩ := Supervisor.watching.inj watches
    have one : Monitor.made (system.monitor.register task.setup.bundle (.supervisor id)).2 =
        [(task.setup.bundle, ⟨system.monitor.nextId, .supervisor id⟩)] :=
      congrArg Monitor.Account.made (system.monitor.account_register _ _)
    rw [one]
    exact .inr (List.mem_singleton_self _)
  | withdrew _ ends =>
    rw [watches] at ends
    cases ends
  | apart goes => exact .inl (goes ticket signal watches)

/-- It is the number of a registration that was made for the supervisor. -/
theorem Run.ticket_made (run : Run start trace final) (new : start.IsNew)
    (present : final.task? id = some task) {signal : Option Signal}
    (stands : task.supervisor = .watching ticket signal) :
    (task.setup.bundle, ⟨ticket, .supervisor id⟩) ∈ made trace := by
  induction run generalizing task signal with
  | refl => simp [task?, new.tasks] at present
  | @step trace system event next effects prior stepped inductionHypothesis =>
    have earlier : ∀ {before : Task} {signal : Option Signal}, system.task? id = some before →
        task.setup = before.setup → before.supervisor = .watching ticket signal →
          (task.setup.bundle, ⟨ticket, .supervisor id⟩) ∈
            made (trace ++ [⟨system, event, effects⟩]) := by
      intro before signal there setup watches
      rw [setup, made_concat]
      exact List.mem_append_left _ (inductionHypothesis there watches)
    cases there : system.task? id with
    | none =>
      obtain absent | ⟨started, again, initial⟩ := (touch stepped).absent there
      · cases absent.symm.trans present
      · obtain rfl := Option.some.inj (again.symm.trans present)
        obtain ⟨setup, tail, trytes, now, forced, rfl⟩ := initial
        cases stands
    | some before =>
      obtain ⟨taskEvent, -, -, -, carries, -⟩ | ⟨-, heard, hears, again⟩ :=
        (touch stepped).takes there
      · obtain ⟨same, after, heard, again, setup, books, hears, told⟩ :=
          books_of_carries carries stepped
        obtain rfl := Option.some.inj (again.symm.trans there)
        obtain rfl := Option.some.inj (told.symm.trans present)
        obtain ⟨signal, watches⟩ := hears.watching stands
        have same_setup : heard.setup = same.setup := hears.waits.1.trans setup
        obtain ⟨signal, watches⟩ | makes := books.watching_inv watches
        · exact earlier there same_setup watches
        · rw [made_concat, same_setup]
          exact List.mem_append_right _ makes
      · obtain rfl := Option.some.inj (again.symm.trans present)
        obtain ⟨signal, watches⟩ := hears.watching stands
        exact earlier there hears.waits.1 watches

/-! ## Who withdraws -/

/-- What a step of a task removes is the registration of its own supervisor, which has noticed the
cancellation. -/
theorem Books.removed_inv {taskEvent : Task.Event} {next : Task}
    {effects : List (Monitor.Effect Watcher)} (books : Books system id task taskEvent next effects)
    (gone : item ∈ Monitor.removed effects) :
    taskEvent = .cancelSeen ∧ ∃ signal, task.supervisor = .watching item.2.id signal := by
  cases books with
  | registered =>
    have removed : Monitor.removed
        (system.monitor.register task.setup.bundle (.supervisor id)).2 = [] :=
      congrArg Monitor.Account.removed (system.monitor.account_register _ _)
    rw [removed] at gone
    cases gone
  | @withdrew ticket signal next stands ends =>
    have removed : Monitor.removed
        (system.monitor.cancelRegistration task.setup.bundle ticket).2 = _ :=
      congrArg Monitor.Account.removed (system.monitor.account_cancelRegistration _ _)
    rw [removed] at gone
    obtain ⟨registration, member, rfl⟩ := List.mem_map.mp gone
    obtain rfl := of_decide_eq_true (List.mem_filter.mp member).2
    exact ⟨rfl, signal, stands⟩
  | apart => cases gone

/-- What an event of a task removes is the registration of its supervisor, as no other has the
number by which it stands. -/
theorem Run.own_of_removed (prior : Run start trace system) (new : start.IsNew)
    (unused : start.monitor.IsNew) (nobody : start.callbacks = []) {taskEvent : Task.Event}
    (carries : Carries system event id taskEvent) (stepped : system.step event = some turn)
    (gone : item ∈ Monitor.removed (monitorEffects turn.2)) :
    taskEvent = .cancelSeen ∧ item.2.watcher = .supervisor id := by
  obtain ⟨task, next, heard, present, setup, books, -⟩ := books_of_carries carries stepped
  obtain ⟨notices, signal, stands⟩ := books.removed_inv gone
  have fates := (prior.step stepped).one_fate unused nobody
  have own : (task.setup.bundle, ⟨item.2.id, .supervisor id⟩) ∈
      made (trace ++ [⟨system, event, turn.2⟩]) := by
    rw [made_concat]
    exact List.mem_append_left _ (prior.ticket_made new present stands)
  have makes : item ∈ made (trace ++ [⟨system, event, turn.2⟩]) := by
    refine fates.fate.mem_iff.mpr (List.mem_append_right _ (List.mem_append_right _ ?_))
    rw [removed_concat]
    exact List.mem_append_right _ gone
  have same := List.inj_on_of_nodup_map fates.distinct makes own rfl
  exact ⟨notices, congrArg (fun other : Hash × Registration Watcher => other.2.watcher) same⟩

/-- Whatever is removed at a step is withdrawn by it. -/
theorem Run.withdraws_of_removed (prior : Run start trace system) (new : start.IsNew)
    (unused : start.monitor.IsNew) (nobody : start.callbacks = [])
    (stepped : system.step event = some turn)
    (gone : item ∈ Monitor.removed (monitorEffects turn.2)) :
    Moment.Withdraws ⟨system, event, turn.2⟩ item := by
  have sound := (prior.accounts new unused nobody).sound
  cases attended stepped with
  | tended elsewhere tends =>
    obtain ⟨entries, run, seen, allowed⟩ := tends.moves
    obtain ⟨entry, member, asked⟩ := run.removed_inv sound (seen ▸ gone)
    have commissions := allowed entry member
    generalize entry.event = monitorEvent at asked commissions
    cases commissions with
    | cancelRegistration =>
      obtain ⟨⟨⟩⟩ | ⟨⟨⟩⟩ := asked
      exact .cancelled rfl
    | cancelPolling =>
      obtain ⟨⟨⟩⟩ | ⟨⟨⟩⟩ := asked
      exact .cleared rfl
    | @unwatched event id taskEvent _ _ carries =>
      obtain ⟨rfl, watcher⟩ := prior.own_of_removed new unused nobody carries stepped gone
      cases carries with
      | own => exact .own rfl watcher
    | @poller poller monitorEvent own =>
      obtain rfl | rfl := asked <;> simp [Monitor.ownEvents] at own
    | _ => obtain ⟨⟨⟩⟩ | ⟨⟨⟩⟩ := asked
  | returned begin found owner decided delivered =>
    obtain ⟨after, move, -, shown, -⟩ := stepMonitor_eq_some delivered
    rw [shown] at gone
    rw [(frame_setCall ..).2.2.1] at move
    obtain ⟨-, ⟨⟨⟩⟩ | ⟨⟨⟩⟩⟩ := move.removed_inv sound.tidy gone
  | ended found opened begin after =>
    obtain ⟨-, effects⟩ := Prod.mk.inj after
    rw [effects] at gone
    cases gone
  | @told place bundle registration begin found after =>
    have silent := (frame_tellConfirmed
      { system with callbacks := system.callbacks.eraseIdx place } (bundle, registration)).2.1
    rw [after, silent] at gone
    cases gone

/-- Whatever is removed in a run was withdrawn at one of its moments, whatever was before. -/
theorem Run.withdrawn {middle : System} {before : List Moment} (prior : Run start before middle)
    (new : start.IsNew) (unused : start.monitor.IsNew) (nobody : start.callbacks = [])
    (run : Run middle trace final) (gone : item ∈ removed trace) :
    ∃ moment ∈ trace, moment.Withdraws item := by
  induction run with
  | refl => cases gone
  | step present stepped inductionHypothesis =>
    rw [removed_concat, List.mem_append] at gone
    obtain earlier | last := gone
    · obtain ⟨moment, member, withdraws⟩ := inductionHypothesis earlier
      exact ⟨moment, List.mem_append_left _ member, withdraws⟩
    · exact ⟨_, List.mem_append_right _ (List.mem_singleton_self _),
        (prior.trans present).withdraws_of_removed new unused nobody stepped last⟩

/-- A registration that nobody has withdrawn is pending or completed. -/
theorem Run.pending_or_completed (run : Run start trace final) (new : start.IsNew)
    (unused : start.monitor.IsNew) (nobody : start.callbacks = []) (makes : item ∈ made trace)
    (kept : ∀ moment ∈ trace, ¬moment.Withdraws item) :
    item.2 ∈ final.monitor.pending item.1 ∨ item ∈ completed trace := by
  have fates := run.one_fate unused nobody
  obtain pending | gone := List.mem_append.mp (fates.fate.mem_iff.mp makes)
  · exact .inl ((fates.pending item.1 item.2).mp pending)
  · obtain done | gone := List.mem_append.mp gone
    · exact .inr done
    · obtain ⟨moment, member, withdraws⟩ := Run.refl.withdrawn new unused nobody run gone
      exact absurd withdraws (kept moment member)

end System

end Inclusion
