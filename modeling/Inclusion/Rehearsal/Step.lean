import Inclusion.Rehearsal.Run

/-!
# The steps of a rehearsal

What may be done to a system in a rehearsal, one thing after another, and what each of them gives. A
step begins at a settled moment. Some steps wait; after every step the moment is settled again.
-/

namespace Inclusion.Rehearsal

/-- One step of a rehearsal. Engines are known by their place among those that were to be built. -/
inductive Step where
  | sleep (milliseconds : Nat)
  /-- The script of a node is changed. -/
  | changeScript (node : String) (change : Script → Script)
  /-- A client is called, and its verdict waited for. -/
  | call (client : Nat) (request : Request)
  /-- A client is asked whether a bundle is confirmed. -/
  | askInclusion (client : Nat) (bundle : Hash)
  | clients
  | health
  | register (id : String) (bundle : Hash)
  | unregister (id : String) (bundle : Hash)
  | wait (id : String) (bundle : Hash)
  | cancelPolling (bundle : Hash)
  | notifyConfirmed (bundle : Hash)
  | stopwatchStart (name : String)
  | stopwatchStop (name : String)
  | stopwatchTake (name : String)
  /-- An engine starts a task; a consumer with the given pause reads its updates, if one is given.
  -/
  | start (engine : Nat) (trytes : List String) (pause : Option Nat)
  /-- The task of an engine is cancelled, and its end waited for. -/
  | cancel (engine : Nat)
  | dropHandle (engine : Nat)
  | dropStream (engine : Nat)
  /-- A held stream is given to a consumer. -/
  | drain (engine : Nat) (pause : Nat)
  /-- Up to so many updates are read from a held stream. -/
  | take (engine : Nat) (count : Nat)
  /-- A confirmation is waited for, but not longer than so many milliseconds. -/
  | waitWithin (bundle : Hash) (milliseconds : Nat)
  | observe (bundles : List Hash)

/-- What is seen of an engine. -/
structure EngineView where
  running : Bool
  loops : Nat
  bundle : Option Hash
  /-- Whether the task of the cancel handle has ended, if there is a handle. -/
  finished : Option Bool

/-- What is seen of the registrations and the stopwatch of a bundle. -/
structure BundleView where
  bundle : Hash
  watching : Bool
  registrations : Nat
  stopwatchExists : Bool
  stopwatchRunning : Bool

/-- What is seen of a whole system and its nodes. -/
structure View where
  bundles : List BundleView
  pollers : Nat
  pushConnected : Bool
  load : Nat
  engines : List (Option EngineView)
  calls : List (String × List (Operation × Nat))
  health : List (String × EndpointStats)

/-- What a step gives. -/
inductive Result where
  | nothing
  | flag (value : Bool)
  | started
  | refused (error : ConfirmerError)
  | joined
  | verdict (verdict : Verdict)
  /-- Whether a bundle is confirmed, who said so, and how long it took. -/
  | inclusion (confirmed : Bool) (endpoint : String) (elapsed : Nat)
  /-- What was read; `none` is the end of the updates. -/
  | taken (items : List (Option Update))
  | waited (outcome : Except MonitorError Unit)
  | gaveUp
  | clients (clients : List Client)
  | health (entries : List (String × EndpointStats))
  | view (view : View)

/-- What is reported of a step. -/
structure Report where
  /-- When the step's own action ended. -/
  time : Nat
  result : Result
  log : Log
  /-- The updates that consumers have read, by engine and in order of receipt. -/
  updates : List (Nat × Nat × Option Update)

namespace State

/-- What the last event of the system answered. -/
def answered (state : State) : Bool :=
  state.effects.any fun
    | .monitor (.answered found) => found
    | .stopwatch done => done
    | _ => false

/-- The number of the registration that the last event of the system made. -/
def registeredId? (state : State) : Option Nat :=
  state.effects.findSome? fun
    | .monitor (.registered _ registration) => some registration.id
    | _ => none

/-- An event of the system and what it answers. -/
def ask (state : State) (event : System.Event) : State × Result :=
  let after := state.perform event
  (after, .flag after.answered)

/-- A client is called, and its verdict waited for. -/
def callAndWait (state : State) (client : Nat) (request : Request) : State × Option Verdict :=
  let (state, caller) := state.introduce ""
  let called := state.perform (.request client request caller)
  let after := called.runUntil fun state => (state.returned.lookup caller).isSome
  (after, after.returned.lookup caller)

/-- A client is asked whether a bundle is confirmed: for its transactions, and if there are any for
their inclusion. -/
def askInclusion (state : State) (client : Nat) (bundle : Hash) : State × Result :=
  match state.callAndWait client (.findTransactions [bundle]) with
  | (after, some (.answered ⟨.hashes found, endpoint, elapsed⟩)) =>
    if found.isEmpty then (after, .inclusion false endpoint elapsed)
    else
      match after.callAndWait client (.getInclusionStates found) with
      | (final, some (.answered ⟨.flags flags, endpoint, more⟩)) =>
        (final, .inclusion (flags.any id) endpoint (elapsed + more))
      | (final, some verdict) => (final, .verdict verdict)
      | (final, none) => (final, .nothing)
  | (after, some verdict) => (after, .verdict verdict)
  | (after, none) => (after, .nothing)

/-- A held stream is dropped; the answer is whether there was one. -/
def dropStream (state : State) (engine : Nat) : State × Bool :=
  match (state.keepsakesOf engine).stream with
  | some task =>
    ((state.modifyKeepsakes engine fun kept => { kept with stream := none }).perform
      (.streamDropped task), true)
  | none => (state, false)

/-- A consumer begins to read the updates of a task. -/
def engage (state : State) (engine task pause : Nat) : State :=
  { state with
    consumers := state.consumers ++ [{ engine, task, pause, ready := state.system.now }] }

/-- An engine starts a task, unless it cannot go on. What is held of an earlier task makes way for
the new one, whether its updates are to be read or held; a refusal leaves it in place. -/
def start? (state : State) (engine place : Nat) (trytes : List String) (pause : Option Nat) :
    Option (State × Result) :=
  let after := state.perform (.start place trytes)
  match after.effects with
  | [.started _ task] =>
    let handled := (after.dropStream engine).1.modifyKeepsakes engine fun kept =>
      { kept with handle := some task }
    match pause with
    | some pause => some (handled.engage engine task pause, .started)
    | none =>
      some (handled.modifyKeepsakes engine fun kept => { kept with stream := some task }, .started)
  | [.startRefused _ error] => some (after, .refused error)
  | _ => none

/-- The task of an engine is cancelled, and its end waited for. -/
def cancel (state : State) (engine : Nat) : State × Result :=
  match (state.keepsakesOf engine).handle with
  | none => (state, .nothing)
  | some task =>
    let cancelled := (state.modifyKeepsakes engine fun kept => { kept with handle := none }).perform
      (.cancel task)
    (cancelled.runUntil fun state => (state.system.task? task).any Task.isOver, .joined)

/-- Up to so many updates are read from a stream; the moment is settled after each of them. -/
def takeFrom (task : Nat) : Nat → State → State × List (Option Update)
  | 0, state => (state, [])
  | count + 1, state =>
    match state.read? task with
    | none => (state, [])
    | some (none, after) => (after, [none])
    | some (some update, after) =>
      let (final, more) := takeFrom task count after.settle
      (final, some update :: more)

/-- A confirmation is waited for within a limit. The registration stays if it does not come. -/
def waitWithin (state : State) (bundle : Hash) (milliseconds : Nat) : State × Result :=
  let (state, waiter) := state.introduce ""
  let waiting := { state with quiet := state.quiet ++ [(waiter, none)] }.perform
    (.register bundle (.waiter waiter))
  let outcome (state : State) : Option (Except MonitorError Unit) :=
    (state.quiet.lookup waiter).join
  let after := runWithin (fun state => (outcome state).isSome)
    (some (waiting.system.now + Clock.ofMilliseconds milliseconds)) patience waiting
  match outcome after with
  | some outcome => (after, .waited outcome)
  | none => (after, .gaveUp)

/-- What is seen of an engine. -/
def viewEngine (state : State) (engine : Nat) (slot : Option Nat) : Option EngineView :=
  (slot.bind fun place => state.system.engines[place]?).map fun present =>
    { running := present.running
      loops := present.activeLoops
      bundle := present.bundle
      finished := (state.keepsakesOf engine).handle.map fun task =>
        (state.system.task? task).any Task.isOver }

/-- What is seen of a bundle. -/
def viewBundle (state : State) (bundle : Hash) : BundleView where
  bundle
  watching := state.system.monitor.isWatching bundle
  registrations := state.system.monitor.registrations bundle
  stopwatchExists := (state.system.stopwatch.find? bundle.text).isSome
  stopwatchRunning := state.system.stopwatch.isRunning bundle.text

/-- What is seen of the whole system. -/
def view (state : State) (slots : List (Option Nat)) (bundles : List Hash) : View where
  bundles := bundles.map state.viewBundle
  pollers := state.system.monitor.activePollers
  pushConnected := state.system.monitor.pushConnected
  load := state.system.load
  engines := slots.zipIdx.map fun (slot, engine) => state.viewEngine engine slot
  calls := state.nodes.map fun node => (node.name, node.calls)
  health := state.system.health.snapshot state.system.now

/-- One step, up to the end of its own action, unless an engine cannot go on. The slots say which
engines were built. -/
def act? (state : State) (slots : List (Option Nat)) : Step → Option (State × Result)
  | .sleep milliseconds => some (state.runFor milliseconds, .nothing)
  | .changeScript node change =>
    some (state.modifyNode node fun present => { present with script := change present.script },
      .nothing)
  | .call client request =>
    match state.callAndWait client request with
    | (after, some verdict) => some (after, .verdict verdict)
    | (after, none) => some (after, .nothing)
  | .askInclusion client bundle => some (state.askInclusion client bundle)
  | .clients => some (state, .clients state.system.clients)
  | .health =>
    let (health, entries) := state.system.health.readAll state.system.now
    some ({ state with system := { state.system with health } }, .health entries)
  | .register id bundle =>
    let (state, callback) := state.introduce id
    let after := state.perform (.register bundle (.callback callback))
    match after.registeredId? with
    | some number => some ({ after with registered := (id, number) :: after.registered }, .nothing)
    | none => some (after, .nothing)
  | .unregister id bundle =>
    match state.registered.lookup id with
    | some number => some (state.ask (.cancelRegistration bundle number))
    | none => some (state, .flag false)
  | .wait id bundle =>
    let (state, waiter) := state.introduce id
    some (state.perform (.register bundle (.waiter waiter)), .nothing)
  | .cancelPolling bundle => some (state.ask (.cancelPolling bundle))
  | .notifyConfirmed bundle => some (state.ask (.notifyConfirmed bundle))
  | .stopwatchStart name => some (state.ask (.stopwatchStarted name))
  | .stopwatchStop name => some (state.ask (.stopwatchStopped name))
  | .stopwatchTake name =>
    let (after, result) := state.ask (.stopwatchTaken name)
    some (after, if after.answered then result else .nothing)
  | .start engine trytes pause =>
    match (slots[engine]?).join with
    | some place => state.start? engine place trytes pause
    | none => some (state, .nothing)
  | .cancel engine => some (state.cancel engine)
  | .dropHandle engine =>
    some (state.modifyKeepsakes engine fun kept => { kept with handle := none },
      .flag (state.keepsakesOf engine).handle.isSome)
  | .dropStream engine =>
    let (after, dropped) := state.dropStream engine
    some (after, .flag dropped)
  | .drain engine pause =>
    match (state.keepsakesOf engine).stream with
    | some task =>
      some ((state.modifyKeepsakes engine fun kept => { kept with stream := none }).engage engine
        task pause, .flag true)
    | none => some (state, .flag false)
  | .take engine count =>
    match (state.keepsakesOf engine).stream with
    | some task =>
      let (after, items) := takeFrom task count state
      some (after, .taken items)
    | none => some (state, .taken [])
  | .waitWithin bundle milliseconds => some (state.waitWithin bundle milliseconds)
  | .observe bundles =>
    let settled := state.settle
    some (settled, .view (settled.view slots bundles))

/-- One step and the report on it, unless an engine cannot go on. -/
def run? (state : State) (slots : List (Option Nat)) (step : Step) : Option (State × Report) :=
  (state.act? slots step).map fun (acted, result) =>
    let settled := acted.settle
    ({ settled with log := [], updates := [], effects := [] },
      { time := acted.system.now
        result
        log := settled.log
        updates := settled.updates.mergeSort fun (_, engine, _) (_, other, _) => engine ≤ other })

/-- All steps and the reports on them, unless an engine cannot go on. -/
def runAll? (slots : List (Option Nat)) : State → List Step → Option (List Report)
  | _, [] => some []
  | state, step :: rest =>
    match state.run? slots step with
    | none => none
    | some (after, report) => (runAll? slots after rest).map (report :: ·)

end State

/-- A client of a rehearsal: its label, and its nodes with the milliseconds they may take. -/
structure ClientPlan where
  label : String
  nodes : List (String × Nat)

/-- An engine of a rehearsal: its settings and the clients that fill its roles. -/
structure EnginePlan where
  config : ConfirmerConfig
  general : Nat
  tipSelection : Nat
  proofOfWork : Nat

/-- What a rehearsal begins with. -/
structure Plan where
  trace : Bool
  nodes : List (String × Script)
  clients : List ClientPlan
  monitor : MonitorConfig
  monitorClient : Nat
  engines : List EnginePlan
  steps : List Step

/-- Why a plan is not carried out to its end. -/
inductive Aborted where
  /-- A client cannot be built. -/
  | client (error : ApiError)
  /-- An engine cannot go on: a time computed from its settings does not exist. -/
  | engine

namespace Plan

/-- Builds the clients in order, up to the first that cannot be built. -/
def buildClients : Health → List ClientPlan → Except ApiError (Health × List Client)
  | health, [] => .ok (health, [])
  | health, plan :: rest =>
    let endpoints := plan.nodes.map fun (name, milliseconds) =>
      (⟨name, .ofMilliseconds milliseconds⟩ : Endpoint)
    match EndpointSet.ofEndpoints plan.label endpoints with
    | .error error => .error error
    | .ok set =>
      let (health, client) := Client.ofSet health set
      match buildClients health rest with
      | .error error => .error error
      | .ok (health, clients) => .ok (health, client :: clients)

/-- The engines that can be built, and for each planned one its place among them or its error. -/
def buildEngines (built : Nat) :
    List EnginePlan → List Engine × List (Except ConfirmerError Nat)
  | [] => ([], [])
  | plan :: rest =>
    match Engine.build plan.config plan.general plan.tipSelection plan.proofOfWork with
    | .ok engine =>
      let (engines, slots) := buildEngines (built + 1) rest
      (engine :: engines, .ok built :: slots)
    | .error error =>
      let (engines, slots) := buildEngines built rest
      (engines, .error error :: slots)

/-- Carries out a plan: the fate of each planned engine and the reports on all steps. Nothing is
reported of a plan that is not carried out to its end. -/
def run (plan : Plan) : Except Aborted (List (Option ConfirmerError) × List Report) :=
  match buildClients {} plan.clients with
  | .error error => .error (.client error)
  | .ok (health, clients) =>
    let (engines, slots) := buildEngines 0 plan.engines
    let state : State := {
      system := {
        health, clients, engines
        monitor := { config := plan.monitor }
        monitorClient := plan.monitorClient }
      nodes := plan.nodes.map fun (name, script) => { name, script }
      trace := plan.trace
      keepsakes := plan.engines.map fun _ => {} }
    let fates := slots.map fun
      | .ok _ => none
      | .error error => some error
    match state.runAll? (slots.map Except.toOption) plan.steps with
    | some reports => .ok (fates, reports)
    | none => .error .engine

end Plan

end Inclusion.Rehearsal
