import Inclusion.Rehearsal.State

/-!
# Letting time pass in a rehearsal

Everything that can happen at a moment happens before time passes. Among events of one moment the
system goes first, then nodes answer, then consumers read, and calls expire last: a node that
answers at the very end of its time is in time. Otherwise the order is of no consequence to a
well-made rehearsal.
-/

namespace Inclusion.Rehearsal.State

/-- A node answers a call whose time has come. The answer is looked up in the script as it is by
now. -/
def answerVisit (state : State) (visit : Visit) : State :=
  let left := { state with
    visits := state.visits.filter fun other =>
      other.call ≠ visit.call || other.place ≠ visit.place }
  match left.node? visit.node with
  | none => left
  | some node =>
    let (outcome, occurrences, after) := node.serve visit.request
    let shown := occurrences.filter fun
      | .depth _ _ | .tails _ _ => state.trace
      | _ => true
    let noted := shown.foldl note (left.modifyNode visit.node fun _ => after)
    noted.perform (.legEnded visit.call visit.place outcome)

/-- The first call whose node answers by now. -/
def dueVisit? (state : State) : Option Visit :=
  state.visits.find? fun visit => visit.due ≤ state.system.now

/-- Whether a task has something for its consumer: an update, or the end of the updates. -/
def isReadable (state : State) (task : Nat) : Bool :=
  match state.system.task? task with
  | some task => task.outbox.slot.isSome || task.isOver
  | none => false

/-- The next update of a task, or the end of the updates, if there is either. -/
def read? (state : State) (task : Nat) : Option (Option Update × State) :=
  match state.system.task? task with
  | none => none
  | some present =>
    match present.outbox.slot with
    | some update => some (some update, state.perform (.received task))
    | none => if present.isOver then some (none, state) else none

/-- Whether a consumer can read now. -/
def isReading (state : State) (consumer : Consumer) : Bool :=
  !consumer.finished && consumer.ready ≤ state.system.now && state.isReadable consumer.task

/-- A consumer reads. -/
def consume (state : State) (place : Nat) (consumer : Consumer) : State :=
  match state.read? consumer.task with
  | none => state
  | some (item, after) =>
    { after with
      updates := after.updates ++ [(after.system.now, consumer.engine, item)]
      consumers := after.consumers.set place
        { consumer with
          ready := Clock.waitUntil after.system.now (Clock.ofMilliseconds consumer.pause)
          finished := item.isNone } }

/-- The first consumer that can read now, and its place. -/
def reader? (state : State) : Option (Consumer × Nat) :=
  state.consumers.zipIdx.find? fun (consumer, _) => state.isReading consumer

/-- Forgets the visits whose calls have expired. -/
def forgetExpired (state : State) (call place : Nat) : State :=
  { state with
    visits := state.visits.filter fun visit => visit.call ≠ call || visit.place ≠ place }

/-- One thing that happens at the present moment, if there is one. -/
def moveOnce? (state : State) : Option State :=
  match state.system.nextEvent? with
  | some event => state.happen event
  | none =>
    match state.dueVisit? with
    | some visit => some (state.answerVisit visit)
    | none =>
      match state.reader? with
      | some (consumer, place) => some (state.consume place consumer)
      | none =>
        match state.system.expired with
        | (call, place) :: _ => (state.forgetExpired call place).happen (.legExpired call place)
        | [] => none

/-- Lets up to so many things happen at the present moment. -/
def settleWithin : Nat → State → State
  | 0, state => state
  | moves + 1, state =>
    match state.moveOnce? with
    | some next => settleWithin moves next
    | none => state

/-- More things than ever happen at one moment, or moments in one rehearsal, unless it goes round in
circles. -/
def patience : Nat := 100000000

/-- Lets everything happen that happens at the present moment. -/
def settle (state : State) : State :=
  settleWithin patience state

/-- The next moment at which something may happen. -/
def nextTime? (state : State) : Option Nat :=
  let visits := state.visits.map Visit.due
  let consumers := (state.consumers.filter fun consumer => !consumer.finished).map Consumer.ready
  ((state.system.deadlines ++ visits ++ consumers).filter (state.system.now < ·)).min?

/-- Lets time pass up to a moment. -/
def pass (state : State) (now : Nat) : State :=
  state.perform (.timePassed now)

/-- Lets things happen and time pass until a condition holds at a settled moment, or the limit is
reached. -/
def runWithin (goal : State → Bool) (limit : Option Nat) : Nat → State → State
  | 0, state => state
  | moments + 1, state =>
    let settled := state.settle
    if goal settled || limit.any (· ≤ settled.system.now) then settled
    else
      match settled.nextTime?, limit with
      | some time, some limit => runWithin goal (some limit) moments (settled.pass (min time limit))
      | some time, none => runWithin goal none moments (settled.pass time)
      | none, some limit => runWithin goal (some limit) moments (settled.pass limit)
      | none, none => settled

/-- Lets things happen and time pass until a condition holds. -/
def runUntil (state : State) (goal : State → Bool) : State :=
  runWithin goal none patience state

/-- Lets so many milliseconds pass. -/
def runFor (state : State) (milliseconds : Nat) : State :=
  let limit := Clock.waitUntil state.system.now (Clock.ofMilliseconds milliseconds)
  runWithin (fun _ => false) (some limit) patience state

end Inclusion.Rehearsal.State
