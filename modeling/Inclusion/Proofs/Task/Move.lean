import Inclusion.Task.Step

/-!
# The rules by which a task moves

`Task.step` is authoritative; `Move` lists the same steps as rules, one for each way in which
something can happen, with what must hold before it. The two agree by `step_eq_some_iff`, so a
property of steps is proved by cases on the rules, and that something can happen is shown by naming
its rule.

The return of a node call in an attempt has rules of its own, in `Answered`. Every rule for a loop
that makes attempts is for both kinds of attempt.
-/

namespace Inclusion.Task

/-- What comes of a node call of an attempt, by the stage of the attempt and the verdict. -/
inductive Answered (task : Task) (now : Nat) (kind : AttemptKind) :
    Stage → Verdict → Turn → Prop where
  | failed {stage cause} :
      Answered task now kind stage (.failed cause) (task.finish now kind (some (.api cause)))
  | prepared {payload endpoint elapsed} :
      Answered task now kind .preparing (.answered ⟨.trytes payload, endpoint, elapsed⟩)
        (task.place kind (.attempting (.selecting payload)),
          [.call kind.party .tipSelection (.selectTips task.setup.config.tipDepth.toNat)])
  | selected {payload tips endpoint elapsed} :
      Answered task now kind (.selecting payload) (.answered ⟨.tips tips, endpoint, elapsed⟩)
        ({ task with
            tipSelectionTime := task.tipSelectionTime + Clock.toMilliseconds elapsed }.place kind
            (.attempting .attaching),
          [.call kind.party .proofOfWork (.attachToTangle (task.trunkFor kind tips) tips.branch
            minWeightMagnitude payload)])
  | malformed {attached cause endpoint elapsed} (unread : tailOf attached = .error cause) :
      Answered task now kind .attaching (.answered ⟨.trytes attached, endpoint, elapsed⟩)
        ({ task with attachTime := task.attachTime + Clock.toMilliseconds elapsed }.finish now kind
          (some (.malformedAttachment cause)))
  | foreign {attached tail endpoint elapsed} (read : tailOf attached = .ok tail)
      (other : kind = .reattachment ∧ tail.bundle ≠ task.setup.bundle) :
      Answered task now kind .attaching (.answered ⟨.trytes attached, endpoint, elapsed⟩)
        ({ task with attachTime := task.attachTime + Clock.toMilliseconds elapsed }.finish now kind
          (some (.inconsistentBundle task.setup.bundle tail.bundle)))
  | attached {attached tail endpoint elapsed} (read : tailOf attached = .ok tail)
      (own : ¬(kind = .reattachment ∧ tail.bundle ≠ task.setup.bundle)) :
      Answered task now kind .attaching (.answered ⟨.trytes attached, endpoint, elapsed⟩)
        ({ task with attachTime := task.attachTime + Clock.toMilliseconds elapsed }.place kind
            (.attempting (.broadcasting attached tail)),
          [.call kind.party .general (.storeAndBroadcast attached)])
  | succeeded {attached tail endpoint elapsed next}
      (exists_next : Clock.moment? now (task.period kind) = some next) :
      Answered task now kind (.broadcasting attached tail) (.answered ⟨.done, endpoint, elapsed⟩)
        (((task.credit kind attached tail).schedule now kind next).finish now kind none)
  | brokeOff {attached tail endpoint elapsed}
      (no_next : Clock.moment? now (task.period kind) = none) :
      Answered task now kind (.broadcasting attached tail) (.answered ⟨.done, endpoint, elapsed⟩)
        ((task.credit kind attached tail).unlock.place kind .done,
          [.brokeOff kind, .loopEnded kind.party])

/-- `Answered` is what `advance` computes. -/
theorem advance_eq_some_iff {task : Task} {now : Nat} {kind : AttemptKind} {stage : Stage}
    {verdict : Verdict} {turn : Turn} :
    task.advance now kind stage verdict = some turn ↔
      Answered task now kind stage verdict turn := by
  constructor
  · intro advanced
    cases verdict with
    | failed cause =>
      obtain rfl := Option.some.inj advanced
      exact .failed
    | answered answer =>
      obtain ⟨value, endpoint, elapsed⟩ := answer
      cases stage <;> cases value <;>
        simp only [advance, Answer.milliseconds, Option.some.injEq, reduceCtorEq] at advanced
      case preparing.trytes =>
        subst advanced
        exact .prepared
      case selecting.tips =>
        subst advanced
        exact .selected
      case attaching.trytes attached =>
        subst advanced
        cases read : tailOf attached with
        | error cause => simpa [checkAttached, read] using Answered.malformed read
        | ok tail =>
          by_cases other : kind = .reattachment ∧ tail.bundle ≠ task.setup.bundle
          · simpa [checkAttached, read, other] using Answered.foreign read other
          · simpa only [checkAttached, read, if_neg other] using Answered.attached read other
      case broadcasting.done attached tail =>
        subst advanced
        cases next : Clock.moment? now (task.period kind) with
        | none => simpa [succeed, next, leave] using Answered.brokeOff next
        | some time => simpa [succeed, next] using Answered.succeeded next
  · intro answered
    cases answered with
    | failed | prepared | selected => rfl
    | malformed unread => simp [advance, Answer.milliseconds, checkAttached, unread]
    | foreign read other => simp [advance, Answer.milliseconds, checkAttached, read, other]
    | attached read own => simp only [advance, Answer.milliseconds, checkAttached, read, if_neg own]
    | succeeded next => simp [advance, succeed, next]
    | brokeOff next => simp [advance, succeed, next, leave]

/-- A step of a task: what happens, in what position, and what the task is afterwards. -/
inductive Move (around : Surroundings) (task : Task) : Event → Turn → Prop where
  | entered {kind} (stands : task.attempter kind = .starting) :
      Move around task (.entered kind.party) (task.sleep around.now kind .tick, [])
  | woke {kind wake} (stands : task.attempter kind = .sleeping .tick wake)
      (due : wake ≤ around.now) :
      Move around task (.elapsed kind.party) ((task.requestLock kind.party).place kind .queued, [])
  | recovered {kind wake} (stands : task.attempter kind = .sleeping .backoff wake)
      (due : wake ≤ around.now) :
      Move around task (.elapsed kind.party) (task.sleep around.now kind .tick, [])
  | haltedAsleep {kind pause wake} (stands : task.attempter kind = .sleeping pause wake)
      (stopped : task.stop = true) :
      Move around task (.halted kind.party) (task.place kind .done, [.loopEnded kind.party])
  | retired {kind} (stands : task.attempter kind = .queued)
      (held : task.lock.holder = some kind.party) (past : task.phase ≠ .running) :
      Move around task (.granted kind.party)
        (task.unlock.place kind .done, [.loopEnded kind.party])
  | began {kind} (stands : task.attempter kind = .queued)
      (held : task.lock.holder = some kind.party) (running : task.phase = .running)
      (due : task.isDue around.now kind = true) :
      Move around task (.granted kind.party) (task.begin kind)
  | deferred {kind} (stands : task.attempter kind = .queued)
      (held : task.lock.holder = some kind.party) (running : task.phase = .running)
      (early : task.isDue around.now kind = false) :
      Move around task (.granted kind.party) (task.unlock.sleep around.now kind .tick, [])
  | answered {kind stage verdict turn} (stands : task.attempter kind = .attempting stage)
      (answered : Answered task around.now kind stage verdict turn) :
      Move around task (.answered kind.party verdict) turn
  | sent {kind update failed deadline}
      (stands : task.attempter kind = .sending update failed deadline)
      (room : task.outbox.slot = none) (receiving : task.outbox.receiving = true) :
      Move around task (.sent kind.party)
        ({ task with outbox := { task.outbox with slot := some update } }.afterReport around.now
          kind failed, [])
  | timedOut {kind update failed deadline}
      (stands : task.attempter kind = .sending update failed deadline)
      (due : deadline ≤ around.now) :
      Move around task (.elapsed kind.party) (task.afterReport around.now kind failed, [])
  | haltedSending {kind update failed deadline}
      (stands : task.attempter kind = .sending update failed deadline)
      (stopped : task.stop = true) :
      Move around task (.halted kind.party) (task.afterReport around.now kind failed, [])
  | refused {kind update failed deadline}
      (stands : task.attempter kind = .sending update failed deadline)
      (gone : task.outbox.receiving = false) :
      Move around task (.refused kind.party) (task.afterReport around.now kind failed, [])
  | checkerEntered (stands : task.checker = .starting) :
      Move around task (.entered .checker)
        ({ task.requestLock .checker with checker := .queued }, [.enterLoad])
  | checkerWoke {wake} (stands : task.checker = .sleeping wake) (due : wake ≤ around.now) :
      Move around task (.elapsed .checker)
        ({ task.requestLock .checker with checker := .queued }, [])
  | checkerHalted {wake} (stands : task.checker = .sleeping wake) (stopped : task.stop = true) :
      Move around task (.halted .checker) task.leaveChecker
  | checkerRetired (stands : task.checker = .queued) (held : task.lock.holder = some .checker)
      (past : task.phase ≠ .running) :
      Move around task (.granted .checker) task.unlock.leaveChecker
  | asked (stands : task.checker = .queued) (held : task.lock.holder = some .checker)
      (running : task.phase = .running) :
      Move around task (.granted .checker)
        ({ task.unlock with checker := .asking task.currentTail },
          [.call .checker .general (.checkConsistency [task.currentTail])])
  | judged {tail promotable} (stands : task.checker = .reporting tail promotable)
      (held : task.lock.holder = some .checker) :
      Move around task (.granted .checker)
        (((task.noteVerdict tail promotable).unlock.restChecker around).1,
          .judged tail promotable ::
            ((task.noteVerdict tail promotable).unlock.restChecker around).2)
  | checkFailed {tail cause} (stands : task.checker = .asking tail) :
      Move around task (.answered .checker (.failed cause)) (task.restChecker around)
  | checkAnswered {tail consistency endpoint elapsed} (stands : task.checker = .asking tail) :
      Move around task
        (.answered .checker (.answered ⟨.consistency consistency, endpoint, elapsed⟩))
        ({ task.requestLock .checker with checker := .reporting tail consistency.isPromotable }, [])
  | registered (stands : task.supervisor = .starting) :
      Move around task (.entered .supervisor) (task.register around)
  | signalled {ticket signal} (stands : task.supervisor = .watching ticket none) :
      Move around task (.signalled ticket signal)
        ({ task with supervisor := .watching ticket (some signal) }, [])
  | dropSeen {ticket} (stands : task.supervisor = .watching ticket (some .dropped)) :
      Move around task .dropSeen (task.register around)
  | confirmSeen {ticket} (stands : task.supervisor = .watching ticket (some .fired)) :
      Move around task .confirmSeen
        ({ task.requestLock .supervisor with supervisor := .queuedToConfirm }, [])
  | cancelSeen {ticket signal} (stands : task.supervisor = .watching ticket signal)
      (cancelled : task.cancel = true) :
      Move around task .cancelSeen
        ({ task.requestLock .supervisor with stop := true, supervisor := .queuedToCancel },
          [.unwatch ticket])
  | confirmed (stands : task.supervisor = .queuedToConfirm)
      (held : task.lock.holder = some .supervisor) :
      Move around task (.granted .supervisor) (task.confirm around.now)
  | cancelled (stands : task.supervisor = .queuedToCancel)
      (held : task.lock.holder = some .supervisor) :
      Move around task (.granted .supervisor)
        ({ task.beginJoin with phase := .cancelled }, [.forgetStopwatch])
  | announced {update deadline} (stands : task.supervisor = .announcing update deadline)
      (room : task.outbox.slot = none) (receiving : task.outbox.receiving = true) :
      Move around task (.sent .supervisor)
        ({ task with outbox := { task.outbox with slot := some update } }.beginJoin, [])
  | announceTimedOut {update deadline} (stands : task.supervisor = .announcing update deadline)
      (due : deadline ≤ around.now) :
      Move around task (.elapsed .supervisor) (task.beginJoin, [])
  | announceCancelled {update deadline} (stands : task.supervisor = .announcing update deadline)
      (cancelled : task.cancel = true) :
      Move around task .cancelSeen (task.beginJoin, [])
  | announceRefused {update deadline} (stands : task.supervisor = .announcing update deadline)
      (gone : task.outbox.receiving = false) :
      Move around task (.refused .supervisor) (task.beginJoin, [])
  | joined (stands : task.supervisor = .joining) (ended : task.workersDone = true) :
      Move around task .joined
        ({ task with supervisor := .done }, [.loopEnded .supervisor, .finished])
  | cancelRequested :
      Move around task .cancelRequested ({ task with cancel := true }, [])
  | received {update} (ready : task.outbox.slot = some update)
      (receiving : task.outbox.receiving = true) :
      Move around task .received
        ({ task with outbox := { task.outbox with slot := none } }, [.delivered update])
  | streamDropped :
      Move around task .streamDropped ({ task with outbox := ⟨none, false⟩ }, [])

variable {around : Surroundings} {task : Task} {turn : Turn}

/-- The loop that an event is for, if it is for one of several. -/
def Event.party? : Event → Option Party
  | entered party | granted party | elapsed party | halted party | sent party | refused party
  | answered party _ => some party
  | _ => none

/-- The rules of a loop that makes attempts cover its steps. -/
theorem move_of_stepAttempter {kind : AttemptKind} {event : Event}
    (addressed : event.party? = some kind.party)
    (moved : task.stepAttempter around.now kind event = some turn) :
    Move around task event turn := by
  cases event with simp only [Event.party?, reduceCtorEq, Option.some.injEq] at addressed
  | entered party =>
    subst addressed
    simp only [stepAttempter] at moved
    split at moved
    · next stands => exact Option.some.inj moved ▸ .entered stands
    · cases moved
  | granted party =>
    subst addressed
    simp only [stepAttempter] at moved
    split at moved
    · next stands =>
      obtain ⟨held, ⟨⟩⟩ := Option.ite_none_right_eq_some.mp moved
      by_cases running : task.phase = .running
      · by_cases due : task.isDue around.now kind = true
        · simpa [consider, running, due] using Move.began stands held running due
        · simpa [consider, running, due] using
            Move.deferred stands held running (eq_false_of_ne_true due)
      · simpa [consider, running, leave] using Move.retired stands held running
    · cases moved
  | elapsed party =>
    subst addressed
    simp only [stepAttempter] at moved
    split at moved
    · next stands =>
      obtain ⟨due, ⟨⟩⟩ := Option.ite_none_right_eq_some.mp moved
      exact .woke stands due
    · next stands =>
      obtain ⟨due, ⟨⟩⟩ := Option.ite_none_right_eq_some.mp moved
      exact .recovered stands due
    · next stands =>
      obtain ⟨due, ⟨⟩⟩ := Option.ite_none_right_eq_some.mp moved
      exact .timedOut stands due
    · cases moved
  | halted party =>
    subst addressed
    simp only [stepAttempter] at moved
    split at moved
    · next stands =>
      obtain ⟨stopped, ⟨⟩⟩ := Option.ite_none_right_eq_some.mp moved
      exact .haltedAsleep stands stopped
    · next stands =>
      obtain ⟨stopped, ⟨⟩⟩ := Option.ite_none_right_eq_some.mp moved
      exact .haltedSending stands stopped
    · cases moved
  | sent party =>
    subst addressed
    simp only [stepAttempter] at moved
    split at moved
    · next stands =>
      obtain ⟨⟨room, receiving⟩, ⟨⟩⟩ := Option.ite_none_right_eq_some.mp moved
      exact .sent stands room receiving
    · cases moved
  | refused party =>
    subst addressed
    simp only [stepAttempter] at moved
    split at moved
    · next stands =>
      obtain ⟨gone, ⟨⟩⟩ := Option.ite_none_left_eq_some.mp moved
      exact .refused stands (eq_false_of_ne_true gone)
    · cases moved
  | answered party verdict =>
    subst addressed
    simp only [stepAttempter] at moved
    split at moved
    · next stands => exact .answered stands (advance_eq_some_iff.mp moved)
    · cases moved

/-- The rules of the checking loop cover its steps. -/
theorem move_of_stepChecker {event : Event} (addressed : event.party? = some .checker)
    (moved : task.stepChecker around event = some turn) : Move around task event turn := by
  cases event with simp only [Event.party?, reduceCtorEq, Option.some.injEq] at addressed
  | entered party =>
    subst addressed
    simp only [stepChecker] at moved
    split at moved
    · next stands => exact Option.some.inj moved ▸ .checkerEntered stands
    · cases moved
  | granted party =>
    subst addressed
    obtain ⟨held, granted⟩ := Option.ite_none_right_eq_some.mp moved
    split at granted
    · next stands =>
      by_cases running : task.phase = .running
      · rw [if_neg (not_not_intro running)] at granted
        exact Option.some.inj granted ▸ .asked stands held running
      · rw [if_pos running] at granted
        exact Option.some.inj granted ▸ .checkerRetired stands held running
    · next stands => exact Option.some.inj granted ▸ .judged stands held
    · cases granted
  | elapsed party =>
    subst addressed
    simp only [stepChecker] at moved
    split at moved
    · next stands =>
      obtain ⟨due, ⟨⟩⟩ := Option.ite_none_right_eq_some.mp moved
      exact .checkerWoke stands due
    · cases moved
  | halted party =>
    subst addressed
    simp only [stepChecker] at moved
    split at moved
    · next stands =>
      obtain ⟨stopped, ⟨⟩⟩ := Option.ite_none_right_eq_some.mp moved
      exact .checkerHalted stands stopped
    · cases moved
  | sent | refused => cases moved
  | answered party verdict =>
    subst addressed
    simp only [stepChecker] at moved
    split at moved
    · next stands =>
      split at moved
      · exact Option.some.inj moved ▸ .checkFailed stands
      · next answer =>
        obtain ⟨value, endpoint, elapsed⟩ := answer
        split at moved
        · next shown =>
          subst shown
          exact Option.some.inj moved ▸ .checkAnswered stands
        · cases moved
    · cases moved

/-- The rules of the supervisor cover its steps. -/
theorem move_of_stepSupervisor {event : Event}
    (addressed : ∀ party, event.party? = some party → party = .supervisor)
    (moved : task.stepSupervisor around event = some turn) : Move around task event turn := by
  cases event with simp only [Event.party?, Option.some.injEq, forall_eq'] at addressed
  | entered party =>
    subst addressed
    simp only [stepSupervisor] at moved
    split at moved
    · next stands => exact Option.some.inj moved ▸ .registered stands
    · cases moved
  | granted party =>
    subst addressed
    obtain ⟨held, granted⟩ := Option.ite_none_right_eq_some.mp moved
    split at granted
    · next stands => exact Option.some.inj granted ▸ .confirmed stands held
    · next stands => exact Option.some.inj granted ▸ .cancelled stands held
    · cases granted
  | elapsed party =>
    subst addressed
    simp only [stepSupervisor] at moved
    split at moved
    · next stands =>
      obtain ⟨due, ⟨⟩⟩ := Option.ite_none_right_eq_some.mp moved
      exact .announceTimedOut stands due
    · cases moved
  | sent party =>
    subst addressed
    simp only [stepSupervisor] at moved
    split at moved
    · next stands =>
      obtain ⟨⟨room, receiving⟩, ⟨⟩⟩ := Option.ite_none_right_eq_some.mp moved
      exact .announced stands room receiving
    · cases moved
  | refused party =>
    subst addressed
    simp only [stepSupervisor] at moved
    split at moved
    · next stands =>
      obtain ⟨gone, ⟨⟩⟩ := Option.ite_none_left_eq_some.mp moved
      exact .announceRefused stands (eq_false_of_ne_true gone)
    · cases moved
  | confirmSeen =>
    simp only [stepSupervisor] at moved
    split at moved
    · next stands => exact Option.some.inj moved ▸ .confirmSeen stands
    · cases moved
  | dropSeen =>
    simp only [stepSupervisor] at moved
    split at moved
    · next stands => exact Option.some.inj moved ▸ .dropSeen stands
    · cases moved
  | cancelSeen =>
    obtain ⟨cancelled, seen⟩ := Option.ite_none_right_eq_some.mp moved
    split at seen
    · next stands => exact Option.some.inj seen ▸ .cancelSeen stands cancelled
    · next stands => exact Option.some.inj seen ▸ .announceCancelled stands cancelled
    · cases seen
  | joined =>
    simp only [stepSupervisor] at moved
    split at moved
    · next stands =>
      obtain ⟨ended, ⟨⟩⟩ := Option.ite_none_right_eq_some.mp moved
      exact .joined stands ended
    · cases moved
  | signalled ticket signal =>
    simp only [stepSupervisor] at moved
    split at moved
    · next stands =>
      obtain ⟨current, ⟨⟩⟩ := Option.ite_none_right_eq_some.mp moved
      subst current
      exact .signalled stands
    · cases moved
  | halted | answered | cancelRequested | received | streamDropped => cases moved

/-- A loop that makes attempts is addressed as the party of its kind. -/
@[simp] theorem stepParty_party (kind : AttemptKind) (event : Event) :
    task.stepParty around kind.party event = task.stepAttempter around.now kind event := by
  cases kind <;> rfl

/-- The rules are exactly the steps. -/
theorem step_eq_some_iff {event : Event} :
    task.step around event = some turn ↔ Move around task event turn := by
  constructor
  · intro moved
    cases event with
    | entered party | granted party | elapsed party | halted party | sent party | refused party
    | answered party =>
      cases party with
      | checker => exact move_of_stepChecker rfl moved
      | promoter => exact @move_of_stepAttempter _ _ _ .promotion _ rfl moved
      | reattacher => exact @move_of_stepAttempter _ _ _ .reattachment _ rfl moved
      | supervisor =>
        exact move_of_stepSupervisor (fun _ same => (Option.some.inj same).symm) moved
    | confirmSeen | dropSeen | cancelSeen | joined | signalled =>
      exact move_of_stepSupervisor (fun _ absent => nomatch absent) moved
    | cancelRequested => exact Option.some.inj moved ▸ .cancelRequested
    | received =>
      simp only [step] at moved
      split at moved
      · next ready =>
        obtain ⟨receiving, ⟨⟩⟩ := Option.ite_none_right_eq_some.mp moved
        exact .received ready receiving
      · cases moved
    | streamDropped => exact Option.some.inj moved ▸ .streamDropped
  · intro move
    cases move with
    | cancelRequested | streamDropped => rfl
    | received ready receiving => simp [step, ready, receiving]
    | entered stands => simp [step, stepAttempter, stands]
    | woke stands due | recovered stands due | timedOut stands due =>
      simp [step, stepAttempter, stands, due]
    | haltedAsleep stands stopped | haltedSending stands stopped =>
      simp [step, stepAttempter, stands, stopped, leave]
    | retired stands held past => simp [step, stepAttempter, stands, held, consider, past, leave]
    | began stands held running due =>
      simp [step, stepAttempter, stands, held, consider, running, due]
    | deferred stands held running early =>
      simp [step, stepAttempter, stands, held, consider, running, early]
    | answered stands answered =>
      simp [step, stepAttempter, stands, advance_eq_some_iff.mpr answered]
    | sent stands room receiving => simp [step, stepAttempter, stands, room, receiving]
    | refused stands gone => simp [step, stepAttempter, stands, gone]
    | checkerEntered stands | checkFailed stands | checkAnswered stands =>
      simp [step, stepParty, stepChecker, stands]
    | checkerWoke stands due => simp [step, stepParty, stepChecker, stands, due]
    | checkerHalted stands stopped => simp [step, stepParty, stepChecker, stands, stopped]
    | checkerRetired stands held past => simp [step, stepParty, stepChecker, stands, held, past]
    | asked stands held running => simp [step, stepParty, stepChecker, stands, held, running]
    | judged stands held => simp [step, stepParty, stepChecker, stands, held]
    | registered stands => simp [step, stepParty, stepSupervisor, stands]
    | signalled stands | dropSeen stands | confirmSeen stands =>
      simp [step, stepSupervisor, stands]
    | cancelSeen stands cancelled | announceCancelled stands cancelled =>
      simp [step, stepSupervisor, stands, cancelled]
    | confirmed stands held | cancelled stands held =>
      simp [step, stepParty, stepSupervisor, stands, held]
    | announced stands room receiving =>
      simp [step, stepParty, stepSupervisor, stands, room, receiving]
    | announceTimedOut stands due => simp [step, stepParty, stepSupervisor, stands, due]
    | announceRefused stands gone => simp [step, stepParty, stepSupervisor, stands, gone]
    | joined stands ended => simp [step, stepSupervisor, stands, ended]

end Inclusion.Task
