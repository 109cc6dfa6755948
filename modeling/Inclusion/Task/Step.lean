import Inclusion.Task.State
import Inclusion.Client.Call

/-!
# The steps of a confirmation task

A task moves by events. Some are its own: a loop gets the lock, wakes up, notices that it is to
end. The others come from outside: a node call has returned, the monitor signals, somebody
cancels, the consumer takes an update or goes away. `Task.step` says for each event whether it can
happen now and, if so, what the task is afterwards and what it asks of its surroundings.

No order among possible events is fixed here, so a run may take any schedule; replies of nodes are
not restricted beyond being of the right kind.
-/

namespace Inclusion

/-- Whom a task asks: each role may be filled by another client. -/
inductive Role where
  /-- Consistency, preparation, broadcast. -/
  | general
  | tipSelection
  | proofOfWork
deriving DecidableEq, Repr

namespace Task

/-- What a task sees of its surroundings at a step. -/
structure Surroundings where
  now : Nat
  /-- The number of checking loops at work in all tasks. -/
  load : Nat
  /-- The number that the monitor will give to the next registration. -/
  ticket : Nat
deriving DecidableEq, Repr

/-- What can happen to a task. -/
inductive Event where
  /-- A loop begins. -/
  | entered (party : Party)
  /-- A loop that asked for the lock has it. -/
  | granted (party : Party)
  /-- A loop has slept, or waited for the consumer, long enough. -/
  | elapsed (party : Party)
  /-- A working loop notices that it is to end. -/
  | halted (party : Party)
  /-- The consumer has room for the update of a loop. -/
  | sent (party : Party)
  /-- A loop notices that there is no consumer for its update. -/
  | refused (party : Party)
  /-- The supervisor notices the confirmation. -/
  | confirmSeen
  /-- The supervisor notices that its registration was removed. -/
  | dropSeen
  /-- The supervisor notices the cancellation. -/
  | cancelSeen
  /-- The supervisor notices that all other loops have ended. -/
  | joined
  /-- The node call of a loop has returned. -/
  | answered (party : Party) (verdict : Verdict)
  /-- The monitor signals the registration with the given number. -/
  | signalled (ticket : Nat) (signal : Signal)
  /-- Somebody cancels the task. -/
  | cancelRequested
  /-- The consumer takes an update. -/
  | received
  /-- The consumer goes away. -/
  | streamDropped
deriving DecidableEq

/-- What a task asks for or lets be seen. -/
inductive Effect where
  /-- A loop calls a node. -/
  | call (party : Party) (role : Role) (request : Request)
  /-- The supervisor registers for its bundle. -/
  | watch
  /-- The supervisor removes its registration. -/
  | unwatch (ticket : Nat)
  /-- The stopwatch of the bundle is no longer needed. -/
  | forgetStopwatch
  /-- The checking loop is at work. -/
  | enterLoad
  /-- The checking loop is no longer at work. -/
  | leaveLoad
  | loopEnded (party : Party)
  /-- All loops have ended and the updates are at their end. -/
  | finished
  /-- An attempt begins. -/
  | began (kind : AttemptKind)
  /-- An attempt has ended, with an error or without. -/
  | ended (kind : AttemptKind) (error : Option ConfirmerError)
  /-- An attempt has succeeded, but its loop has ended with it. -/
  | brokeOff (kind : AttemptKind)
  /-- A node's word on the current tail has been noted. -/
  | judged (tail : Hash) (promotable : Bool)
  /-- An update is put before the consumer. -/
  | offered (update : Update)
  /-- The consumer has taken an update. -/
  | delivered (update : Update)
deriving DecidableEq

/-- A task after a step, and what it asked for. -/
abbrev Turn := Task × List Effect

/-- The task after the holder has given its lock back. -/
def unlock (task : Task) : Task :=
  { task with lock := task.lock.release }

/-- The task after a loop has asked for the lock. -/
def requestLock (task : Task) (party : Party) : Task :=
  { task with lock := task.lock.request party }

/-! ## Loops that make attempts -/

/-- A loop that makes attempts goes to sleep. -/
def sleep (task : Task) (now : Nat) (kind : AttemptKind) (pause : Pause) : Task :=
  task.place kind (.sleeping pause (Clock.waitUntil now (task.setup.pauseLength kind pause)))

/-- A loop that makes attempts ends. -/
def leave (task : Task) (kind : AttemptKind) : Turn :=
  (task.place kind .done, [.loopEnded kind.party])

/-- After an attempt, once it is reported or need not be, the lock is given back. -/
def afterReport (task : Task) (now : Nat) (kind : AttemptKind) (failed : Bool) : Task :=
  task.unlock.sleep now kind (if failed then .backoff else .tick)

/-- An attempt begins with its first node call. -/
def begin (task : Task) (kind : AttemptKind) : Turn :=
  match kind with
  | .promotion =>
    (task.place kind (.attempting .preparing),
      [.began kind, .call kind.party .general
        (.prepareTransfers task.setup.config.promoteSeed [task.setup.promotionTransfer] 2)])
  | .reattachment =>
    (task.place kind (.attempting (.selecting task.currentTrytes)),
      [.began kind, .call kind.party .tipSelection
        (.selectTips task.setup.config.tipDepth.toNat)])

/-- With the lock, a loop that makes attempts ends, goes to sleep again, or begins. -/
def consider (task : Task) (now : Nat) (kind : AttemptKind) : Turn :=
  if task.phase ≠ .running then task.unlock.leave kind
  else if task.isDue now kind then task.begin kind
  else (task.unlock.sleep now kind .tick, [])

/-- An attempt ends. It is reported unless the task is no longer running or is being stopped. -/
def finish (task : Task) (now : Nat) (kind : AttemptKind) (error : Option ConfirmerError) : Turn :=
  let update := task.report (if error.isSome then .noAction else kind.updateKind)
    (error.map ConfirmerError.message)
  if task.phase = .running ∧ task.stop = false then
    (task.place kind
      (.sending update error.isSome (now + task.setup.sendTimeout)),
      [.ended kind error, .offered update])
  else (task.afterReport now kind error.isSome, [.ended kind error])

/-- A successful attempt is counted. Only a reattachment replaces the trytes; a promotion replaces
the tail only if promotions are chained. -/
def credit (task : Task) (kind : AttemptKind) (attached : List String) (tail : Transaction) :
    Task :=
  match kind with
  | .promotion =>
    { task with
      promotions := task.promotions + 1
      currentTail := if task.setup.config.promoteChain then tail.hash else task.currentTail }
  | .reattachment =>
    { task with
      attaches := task.attaches + 1
      currentTail := tail.hash
      currentTrytes := attached }

/-- How long after a successful attempt the next one of its kind is due. -/
def period (task : Task) : AttemptKind → Nat
  | .promotion => task.setup.config.promoteEvery.nanoseconds
  | .reattachment => task.setup.forceReattachAfter

/-- After a successful attempt the next one is set for a moment. A reattachment makes a promotion
due at once, and clears what nodes said about the old tail. -/
def schedule (task : Task) (now : Nat) (kind : AttemptKind) (next : Nat) : Task :=
  match kind with
  | .promotion => { task with nextPromotion := next }
  | .reattachment =>
    { task with
      nextForcedReattachment := next
      nextPromotion := now
      notPromotable := false }

/-- A successful attempt ends. If the moment of the next one does not exist, the loop ends with it:
what was achieved stays counted, but is not reported. -/
def succeed (task : Task) (now : Nat) (kind : AttemptKind) (attached : List String)
    (tail : Transaction) : Turn :=
  let credited := task.credit kind attached tail
  match Clock.moment? now (task.period kind) with
  | some next => (credited.schedule now kind next).finish now kind none
  | none =>
    let (left, effects) := credited.unlock.leave kind
    (left, .brokeOff kind :: effects)

/-- The trunk of an attachment: a promotion refers to the current tail, a reattachment to the tip.
-/
def trunkFor (task : Task) (kind : AttemptKind) (tips : Tips) : Hash :=
  match kind with
  | .promotion => task.currentTail
  | .reattachment => tips.trunk

/-- An attempt whose trytes have been attached goes on to broadcast them, unless they are no bundle
or, in a reattachment, another bundle. -/
def checkAttached (task : Task) (now : Nat) (kind : AttemptKind) (attached : List String) : Turn :=
  match tailOf attached with
  | .error cause => task.finish now kind (some (.malformedAttachment cause))
  | .ok tail =>
    if kind = .reattachment ∧ tail.bundle ≠ task.setup.bundle then
      task.finish now kind (some (.inconsistentBundle task.setup.bundle tail.bundle))
    else
      (task.place kind (.attempting (.broadcasting attached tail)),
        [.call kind.party .general (.storeAndBroadcast attached)])

/-- An attempt after its node call has returned. A reply of the wrong kind cannot be returned. -/
def advance (task : Task) (now : Nat) (kind : AttemptKind) (stage : Stage) (verdict : Verdict) :
    Option Turn :=
  match verdict with
  | .failed cause => some (task.finish now kind (some (.api cause)))
  | .answered answer =>
    match stage, answer.value with
    | .preparing, .trytes payload =>
      some (task.place kind (.attempting (.selecting payload)),
        [.call kind.party .tipSelection (.selectTips task.setup.config.tipDepth.toNat)])
    | .selecting payload, .tips tips =>
      some
        ({ task with tipSelectionTime := task.tipSelectionTime + answer.milliseconds }.place kind
          (.attempting .attaching),
        [.call kind.party .proofOfWork
          (.attachToTangle (task.trunkFor kind tips) tips.branch minWeightMagnitude payload)])
    | .attaching, .trytes attached =>
      some ({ task with attachTime := task.attachTime + answer.milliseconds }.checkAttached now kind
        attached)
    | .broadcasting attached tail, .done => some (task.succeed now kind attached tail)
    | _, _ => none

/-- The events of a loop that makes attempts. -/
def stepAttempter (task : Task) (now : Nat) (kind : AttemptKind) : Event → Option Turn
  | .entered _ =>
    match task.attempter kind with
    | .starting => some (task.sleep now kind .tick, [])
    | _ => none
  | .granted party =>
    match task.attempter kind with
    | .queued => if task.lock.holder = some party then some (task.consider now kind) else none
    | _ => none
  | .elapsed party =>
    match task.attempter kind with
    | .sleeping .tick wake =>
      if wake ≤ now then some ((task.requestLock party).place kind .queued, []) else none
    | .sleeping .backoff wake => if wake ≤ now then some (task.sleep now kind .tick, []) else none
    | .sending _ failed deadline =>
      if deadline ≤ now then some (task.afterReport now kind failed, []) else none
    | _ => none
  | .halted _ =>
    match task.attempter kind with
    | .sleeping _ _ => if task.stop then some (task.leave kind) else none
    | .sending _ failed _ => if task.stop then some (task.afterReport now kind failed, []) else none
    | _ => none
  | .sent _ =>
    match task.attempter kind with
    | .sending update failed _ =>
      if task.outbox.slot = none ∧ task.outbox.receiving then
        some ({ task with outbox := { task.outbox with slot := some update } }.afterReport now kind
          failed, [])
      else none
    | _ => none
  | .refused _ =>
    match task.attempter kind with
    | .sending _ failed _ =>
      if task.outbox.receiving then none else some (task.afterReport now kind failed, [])
    | _ => none
  | .answered _ verdict =>
    match task.attempter kind with
    | .attempting stage => task.advance now kind stage verdict
    | _ => none
  | _ => none

/-! ## The checking loop -/

/-- The checking loop ends. -/
def leaveChecker (task : Task) : Turn :=
  ({ task with checker := .done }, [.leaveLoad, .loopEnded .checker])

/-- The checking loop goes to sleep, for longer while many such loops are at work. If the pause is
no duration the loop ends. -/
def restChecker (task : Task) (around : Surroundings) : Turn :=
  match task.setup.config.promotabilityInterval? around.load with
  | some interval =>
    ({ task with checker := .sleeping (Clock.waitUntil around.now interval.nanoseconds) }, [])
  | none => task.leaveChecker

/-- What a node said about a tail is noted, unless the tail has been replaced meanwhile. -/
def noteVerdict (task : Task) (tail : Hash) (promotable : Bool) : Task :=
  if task.currentTail = tail then { task with notPromotable := !promotable } else task

/-- The events of the checking loop. -/
def stepChecker (task : Task) (around : Surroundings) : Event → Option Turn
  | .entered _ =>
    match task.checker with
    | .starting => some ({ task.requestLock .checker with checker := .queued }, [.enterLoad])
    | _ => none
  | .granted party =>
    if task.lock.holder = some party then
      match task.checker with
      | .queued =>
        if task.phase ≠ .running then some task.unlock.leaveChecker
        else
          some ({ task.unlock with checker := .asking task.currentTail },
            [.call .checker .general (.checkConsistency [task.currentTail])])
      | .reporting tail promotable =>
        let (rested, effects) := (task.noteVerdict tail promotable).unlock.restChecker around
        some (rested, .judged tail promotable :: effects)
      | _ => none
    else none
  | .elapsed _ =>
    match task.checker with
    | .sleeping wake =>
      if wake ≤ around.now then some ({ task.requestLock .checker with checker := .queued }, [])
      else none
    | _ => none
  | .halted _ =>
    match task.checker with
    | .sleeping _ => if task.stop then some task.leaveChecker else none
    | _ => none
  | .answered _ verdict =>
    match task.checker with
    | .asking tail =>
      match verdict with
      | .failed _ => some (task.restChecker around)
      | .answered answer =>
        match answer.value with
        | .consistency consistency =>
          some ({ task.requestLock .checker with
            checker := .reporting tail consistency.isPromotable }, [])
        | _ => none
    | _ => none
  | _ => none

/-! ## The supervisor -/

/-- The supervisor registers with the monitor. -/
def register (task : Task) (around : Surroundings) : Turn :=
  ({ task with supervisor := .watching around.ticket none }, [.watch])

/-- The supervisor gives the lock back and waits for the other loops. -/
def beginJoin (task : Task) : Task :=
  { task.unlock with supervisor := .joining }

/-- With the lock, the supervisor confirms: the loops are told to end and the last update is put
before the consumer. -/
def confirm (task : Task) (now : Nat) : Turn :=
  let update := task.report .confirm none
  ({ task with
      phase := .confirmed
      stop := true
      supervisor := .announcing update (now + task.setup.sendTimeout) },
    [.offered update])

/-- The events of the supervisor. -/
def stepSupervisor (task : Task) (around : Surroundings) : Event → Option Turn
  | .entered _ =>
    match task.supervisor with
    | .starting => some (task.register around)
    | _ => none
  | .confirmSeen =>
    match task.supervisor with
    | .watching _ (some .fired) =>
      some ({ task.requestLock .supervisor with supervisor := .queuedToConfirm }, [])
    | _ => none
  | .dropSeen =>
    match task.supervisor with
    | .watching _ (some .dropped) => some (task.register around)
    | _ => none
  | .cancelSeen =>
    if task.cancel then
      match task.supervisor with
      | .watching ticket _ =>
        some ({ task.requestLock .supervisor with stop := true, supervisor := .queuedToCancel },
          [.unwatch ticket])
      | .announcing _ _ => some (task.beginJoin, [])
      | _ => none
    else none
  | .granted party =>
    if task.lock.holder = some party then
      match task.supervisor with
      | .queuedToConfirm => some (task.confirm around.now)
      | .queuedToCancel => some ({ task.beginJoin with phase := .cancelled }, [.forgetStopwatch])
      | _ => none
    else none
  | .sent _ =>
    match task.supervisor with
    | .announcing update _ =>
      if task.outbox.slot = none ∧ task.outbox.receiving then
        some ({ task with outbox := { task.outbox with slot := some update } }.beginJoin, [])
      else none
    | _ => none
  | .refused _ =>
    match task.supervisor with
    | .announcing _ _ => if task.outbox.receiving then none else some (task.beginJoin, [])
    | _ => none
  | .elapsed _ =>
    match task.supervisor with
    | .announcing _ deadline =>
      if deadline ≤ around.now then some (task.beginJoin, []) else none
    | _ => none
  | .joined =>
    match task.supervisor with
    | .joining =>
      if task.workersDone then
        some ({ task with supervisor := .done }, [.loopEnded .supervisor, .finished])
      else none
    | _ => none
  | .signalled ticket signal =>
    match task.supervisor with
    | .watching current none =>
      if current = ticket then
        some ({ task with supervisor := .watching current (some signal) }, [])
      else none
    | _ => none
  | _ => none

/-! ## All events -/

/-- One event of one loop. -/
def stepParty (task : Task) (around : Surroundings) (party : Party) (event : Event) :
    Option Turn :=
  match party with
  | .checker => task.stepChecker around event
  | .promoter => task.stepAttempter around.now .promotion event
  | .reattacher => task.stepAttempter around.now .reattachment event
  | .supervisor => task.stepSupervisor around event

/-- What an event makes of a task, if it can happen. -/
def step (around : Surroundings) (task : Task) (event : Event) : Option Turn :=
  match event with
  | .entered party | .granted party | .elapsed party | .halted party | .sent party
  | .refused party | .answered party _ => task.stepParty around party event
  | .confirmSeen | .dropSeen | .cancelSeen | .joined | .signalled _ _ =>
    task.stepSupervisor around event
  | .cancelRequested => some ({ task with cancel := true }, [])
  | .received =>
    match task.outbox.slot with
    | some update =>
      if task.outbox.receiving then
        some ({ task with outbox := { task.outbox with slot := none } }, [.delivered update])
      else none
    | none => none
  | .streamDropped => some ({ task with outbox := ⟨none, false⟩ }, [])

/-- The loops, in the order in which their events are listed. -/
def parties : List Party :=
  [.checker, .promoter, .reattacher, .supervisor]

/-- The events that a task brings about by itself. -/
def ownEvents : List Event :=
  parties.map .granted ++ parties.map .sent ++ parties.map .refused ++
    [.confirmSeen, .dropSeen, .cancelSeen, .joined] ++
    parties.map .halted ++ parties.map .elapsed ++ parties.map .entered

/-- The first event of its own that a task can bring about now. -/
def nextEvent? (around : Surroundings) (task : Task) : Option Event :=
  ownEvents.find? fun event => (task.step around event).isSome

/-- A task is settled when it can do nothing by itself before time passes or something comes from
outside. -/
def isSettled (around : Surroundings) (task : Task) : Bool :=
  (task.nextEvent? around).isNone

/-- The times at which something of a task elapses. -/
def deadlines (task : Task) : List Nat :=
  let ofAttempter : Attempter → List Nat
    | .sleeping _ wake => [wake]
    | .sending _ _ deadline => [deadline]
    | _ => []
  (match task.checker with
    | .sleeping wake => [wake]
    | _ => []) ++
  ofAttempter task.promoter ++ ofAttempter task.reattacher ++
  (match task.supervisor with
    | .announcing _ deadline => [deadline]
    | _ => [])

end Task

end Inclusion
