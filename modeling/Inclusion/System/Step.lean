import Inclusion.System.State
import Inclusion.Monitor.Notice

/-!
# The steps of a whole system

A system moves by events of its parts and by what comes from outside: replies of nodes, the
passing of time, and whatever its users do. `System.step` gives each event to the part that it
concerns and carries out what that part asks for.

Computing takes no time. Time passes only when no part can do anything by itself, and never beyond
a moment at which something elapses. A node may answer at any moment up to the end of its time,
that moment included, or not at all, and may answer anything of the right kind.
-/

namespace Inclusion.System

/-- What can happen to a system. -/
inductive Event where
  /-- A task does something by itself. -/
  | task (id : Nat) (event : Task.Event)
  /-- A poller does something by itself. -/
  | poller (event : Monitor.Event Watcher)
  /-- The owner of a completed registration is told, whichever of those in line. -/
  | callbackRun (place : Nat := 0)
  /-- The verdict of a call is delivered. -/
  | callReturned (call : Nat)
  /-- The time of an endpoint is up. -/
  | legExpired (call place : Nat)
  /-- An endpoint answers or fails. -/
  | legEnded (call place : Nat) (outcome : Outcome)
  | timePassed (now : Nat)
  /-- An engine is given a bundle to confirm. -/
  | start (engine : Nat) (trytes : List String)
  | cancel (task : Nat)
  /-- The consumer of a task takes an update. -/
  | received (task : Nat)
  /-- The consumer of a task goes away. -/
  | streamDropped (task : Nat)
  | register (bundle : Hash) (watcher : Watcher)
  | cancelRegistration (bundle : Hash) (id : Nat)
  | cancelPolling (bundle : Hash)
  | notifyConfirmed (bundle : Hash)
  | feedChanged (connected : Bool)
  /-- The feed sends a text of any number of lines. -/
  | feedSpoke (text : String)
  /-- Somebody outside calls a client. -/
  | request (client : Nat) (request : Request) (caller : Nat)
  | stopwatchStarted (name : String)
  | stopwatchStopped (name : String)
  | stopwatchTaken (name : String)

/-- What can be seen of a step. -/
inductive Effect where
  | task (id : Nat) (effect : Task.Effect)
  | monitor (effect : Monitor.Effect Watcher)
  /-- A request is put to an endpoint. -/
  | launched (call place : Nat) (endpoint : String) (request : Request)
  /-- The outcome of an endpoint is booked. -/
  | booked (call place : Nat) (handle : Nat) (outcome : Outcome)
  /-- A call from outside has its verdict. -/
  | returned (caller : Nat) (verdict : Verdict)
  /-- Somebody outside is told of a confirmation. -/
  | fired (callback : Nat)
  /-- Somebody outside has waited, for a confirmation or in vain. -/
  | waited (waiter : Nat) (outcome : Except MonitorError Unit)
  | started (engine task : Nat)
  | startRefused (engine : Nat) (error : ConfirmerError)
  /-- An engine cannot go on, because a time computed from its settings does not exist. -/
  | startOverflowed (engine : Nat)
  /-- What the stopwatch answered. -/
  | stopwatch (done : Bool)

/-- A system after a step, and what can be seen of it. -/
abbrev Turn := System × List Effect

/-- Carries out one thing after another. -/
def carryOut {α : Type} (act : System → α → Turn) : System → List α → Turn
  | system, [] => (system, [])
  | system, first :: rest =>
    let (system, effects) := act system first
    let (system, more) := carryOut act system rest
    (system, effects ++ more)

/-- A client call begins. -/
def beginCall (system : System) (owner : Owner) (client : Nat) (request : Request) : Turn :=
  match system.clients[client]? with
  | none => (system, [])
  | some client =>
    let call := client.call request system.now
    ({ system with
        calls := system.calls ++ [⟨system.nextCall, some owner, call⟩]
        nextCall := system.nextCall + 1 },
      call.legs.map fun leg => .launched system.nextCall leg.place leg.endpoint.name request)

/-- Tells a supervisor what became of its registration, if it still stands by it. -/
def signal (system : System) (id ticket : Nat) (signal : Signal) : System :=
  match system.task? id with
  | none => system
  | some task =>
    match task.step system.surroundings (.signalled ticket signal) with
    | some (task, _) => system.setTask id task
    | none => system

/-- Tells a watcher that its registration was removed. -/
def tellRemoved (bundle : Hash) (system : System) (registration : Registration Watcher) : Turn :=
  match registration.watcher with
  | .supervisor task => (system.signal task registration.id .dropped, [])
  | .callback _ => (system, [])
  | .waiter name => (system, [.waited name (.error (.cancelled bundle))])

/-- Tells a watcher that its bundle is confirmed. -/
def tellConfirmed (system : System) (registration : Registration Watcher) : Turn :=
  match registration.watcher with
  | .supervisor task => (system.signal task registration.id .fired, [])
  | .callback name => (system, [.fired name])
  | .waiter name => (system, [.waited name (.ok ())])

/-- Carries out what the monitor asks for. -/
def serveMonitor (system : System) (effect : Monitor.Effect Watcher) : Turn :=
  let (served, effects) : Turn :=
    match effect with
    | .completed bundle registrations =>
      ({ system with callbacks := system.callbacks ++ registrations.map (bundle, ·) }, [])
    | .removed bundle registrations => carryOut (tellRemoved bundle) system registrations
    | .query poller request => system.beginCall (.poller poller) system.monitorClient request
    | .stopWatch bundle =>
      ({ system with stopwatch := (system.stopwatch.stop bundle.text system.now).1 }, [])
    | _ => (system, [])
  (served, .monitor effect :: effects)

/-- The system after a turn of its monitor. -/
def afterMonitor (system : System) (turn : Monitor.Turn Watcher) : Turn :=
  carryOut serveMonitor { system with monitor := turn.1 } turn.2

/-- A line of the feed is heard. A notice of a bundle that nobody waits for changes nothing, nor
does any other line. -/
def hearLine (system : System) (line : String) : Turn :=
  match noticedBundle? line with
  | some bundle =>
    if system.monitor.isWatching bundle then
      system.afterMonitor (system.monitor.notifyConfirmed bundle)
    else (system, [])
  | none => (system, [])

/-- An event of the monitor. -/
def stepMonitor (system : System) (event : Monitor.Event Watcher) : Option Turn :=
  (system.monitor.step system.now event).map system.afterMonitor

/-- Carries out what a task asks for. -/
def serveTask (engine id : Nat) (bundle : Hash) (system : System) (effect : Task.Effect) : Turn :=
  let (served, effects) : Turn :=
    match effect with
    | .call party role request =>
      match system.engines[engine]? with
      | some present => system.beginCall (.loop id party) (present.client role) request
      | none => (system, [])
    | .watch => system.afterMonitor (system.monitor.register bundle (.supervisor id))
    | .unwatch ticket => system.afterMonitor (system.monitor.cancelRegistration bundle ticket)
    | .forgetStopwatch => ({ system with stopwatch := system.stopwatch.erase bundle.text }, [])
    | .enterLoad => ({ system with load := system.load + 1 }, [])
    | .leaveLoad => ({ system with load := system.load - 1 }, [])
    | .loopEnded _ =>
      (system.modifyEngine engine fun present =>
        { present with activeLoops := present.activeLoops - 1 }, [])
    | .finished =>
      (system.modifyEngine engine fun present => { present with running := false }, [])
    | _ => (system, [])
  (served, .task id effect :: effects)

/-- An event of a task. -/
def stepTask (system : System) (id : Nat) (event : Task.Event) : Option Turn :=
  match system.tasks[id]? with
  | none => none
  | some record =>
    match record.task.step system.surroundings event with
    | none => none
    | some (task, effects) =>
      some (carryOut (serveTask record.engine id task.setup.bundle) (system.setTask id task)
        effects)

/-- An engine starts a task. The bundle is judged first, also while a task is at work; nothing is
changed by a refusal. An engine one of whose times does not exist is left running without a task. A
stopwatch left over from an earlier task is started anew. -/
def startTask (system : System) (engine : Nat) (trytes : List String) : Option Turn :=
  match system.engines[engine]? with
  | none => none
  | some present =>
    match tailOf trytes with
    | .error cause => some (system, [.startRefused engine (.invalidBundle cause)])
    | .ok tail =>
      if present.running then some (system, [.startRefused engine .alreadyRunning])
      else
        let begun := system.modifyEngine engine fun present => { present with running := true }
        match present.task? tail trytes system.now with
        | none => some (begun, [.startOverflowed engine])
        | some task =>
          let watch := (begun.stopwatch.erase tail.bundle.text).start tail.bundle.text system.now
          let engaged := begun.modifyEngine engine fun present =>
            { present with
              activeLoops := present.activeLoops + Task.parties.length
              bundle := some tail.bundle }
          some
            ({ engaged with
                stopwatch := watch.1
                tasks := system.tasks ++ [⟨engine, task⟩] },
              [.started engine system.tasks.length])

/-- The outcome of an endpoint is booked, and decides the call if it can. -/
def endLeg (system : System) (record : CallRecord) (leg : Leg) (outcome : Outcome) : Turn :=
  (({ system with
      health := system.health.record leg.handle outcome.isFailure system.now }.setCall
        { record with call := record.call.endLeg leg outcome system.now }),
    [.booked record.id leg.place leg.handle outcome])

/-- The verdict of a call goes to its owner. -/
def deliver (system : System) (record : CallRecord) (owner : Owner) (verdict : Verdict) :
    Option Turn :=
  let delivered := system.setCall { record with owner := none }
  match owner with
  | .loop task party => delivered.stepTask task (.answered party verdict)
  | .poller id => delivered.stepMonitor (.pollerAnswered id verdict)
  | .caller name => some (delivered, [.returned name verdict])

/-- Whether the outcome fits the request. -/
def fits (request : Request) : Outcome → Bool
  | .replied reply => request.accepts reply
  | .failed _ => true

/-- The calls that can be delivered, and the legs whose time is up. -/
def returnable (system : System) : List Nat :=
  system.calls.filterMap fun record =>
    if record.owner.isSome && record.call.verdict.isSome then some record.id else none

/-- The legs whose time is up, by call and place. -/
def expired (system : System) : List (Nat × Nat) :=
  system.calls.flatMap fun record =>
    (record.call.legs.filter fun leg => leg.deadline record.call.started ≤ system.now).map
      fun leg => (record.id, leg.place)

/-- The first event that a task can bring about by itself. -/
def nextTaskEvent? (system : System) : Option Event :=
  (system.tasks.zipIdx.findSome? fun (record, id) =>
    (record.task.nextEvent? system.surroundings).map (Event.task id))

/-- The first event that the system can bring about by itself at this moment, the expiry of calls
apart. -/
def nextEvent? (system : System) : Option Event :=
  (((system.monitor.nextEvent? system.now).map Event.poller).or
    (if system.callbacks.isEmpty then none else some .callbackRun)).or
    (system.nextTaskEvent?.or ((system.returnable.head?).map Event.callReturned))

/-- The first call that expires at this moment. -/
def nextExpiry? (system : System) : Option Event :=
  (system.expired.head?).map fun (call, place) => .legExpired call place

/-- A system is settled when nothing happens before time passes or something comes from outside. -/
def isSettled (system : System) : Bool :=
  system.nextEvent?.isNone && system.nextExpiry?.isNone

/-- The times at which something elapses. -/
def deadlines (system : System) : List Nat :=
  system.tasks.flatMap (fun record => record.task.deadlines) ++ system.monitor.deadlines ++
    system.calls.flatMap fun record =>
      record.call.legs.map fun leg => leg.deadline record.call.started

/-- What an event makes of a system, if it can happen. -/
def step (system : System) : Event → Option Turn
  | .task id event => if event ∈ Task.ownEvents then system.stepTask id event else none
  | .poller event =>
    if system.monitor.pollers.any fun poller => event ∈ Monitor.ownEvents poller then
      system.stepMonitor event
    else none
  | .callbackRun place =>
    match system.callbacks[place]? with
    | none => none
    | some (_, registration) =>
      let left := { system with callbacks := system.callbacks.eraseIdx place }
      some (left.tellConfirmed registration)
  | .callReturned id =>
    match system.call? id with
    | some record =>
      match record.owner, record.call.verdict with
      | some owner, some verdict => system.deliver record owner verdict
      | _, _ => none
    | none => none
  | .legExpired id place =>
    match system.call? id with
    | some record =>
      match record.call.leg? place with
      | some leg =>
        if leg.deadline record.call.started ≤ system.now then
          some (system.endLeg record leg (.failed (.timeout leg.endpoint.timeout)))
        else none
      | none => none
    | none => none
  | .legEnded id place outcome =>
    match system.call? id with
    | some record =>
      match record.call.leg? place with
      | some leg =>
        if fits record.call.request outcome then some (system.endLeg record leg outcome) else none
      | none => none
    | none => none
  | .timePassed now =>
    if system.isSettled && system.now ≤ now && system.deadlines.all (now ≤ ·) then
      some ({ system with now }, [])
    else none
  | .start engine trytes => system.startTask engine trytes
  | .cancel id => system.stepTask id .cancelRequested
  | .received id => system.stepTask id .received
  | .streamDropped id => system.stepTask id .streamDropped
  | .register bundle watcher =>
    match watcher with
    | .supervisor _ => none
    | _ => system.stepMonitor (.register bundle watcher)
  | .cancelRegistration bundle id => system.stepMonitor (.cancelRegistration bundle id)
  | .cancelPolling bundle => system.stepMonitor (.cancelPolling bundle)
  | .notifyConfirmed bundle => system.stepMonitor (.notifyConfirmed bundle)
  | .feedChanged connected => system.stepMonitor (.feedChanged connected)
  | .feedSpoke text => some (carryOut hearLine system (Text.lines text))
  | .request client request caller =>
    if client < system.clients.length then some (system.beginCall (.caller caller) client request)
    else none
  | .stopwatchStarted name =>
    let (stopwatch, done) := system.stopwatch.start name system.now
    some ({ system with stopwatch }, [.stopwatch done])
  | .stopwatchStopped name =>
    let (stopwatch, done) := system.stopwatch.stop name system.now
    some ({ system with stopwatch }, [.stopwatch done])
  | .stopwatchTaken name =>
    let (stopwatch, times) := system.stopwatch.take name system.now
    some ({ system with stopwatch }, [.stopwatch times.isSome])

end Inclusion.System
