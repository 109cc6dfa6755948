import Inclusion.Task.Step
import Inclusion.Monitor.Step
import Inclusion.Stopwatch
import Inclusion.Monitor.Error

/-!
# The state of a whole system

Engines, each with at most one task at work, share a monitor, a stopwatch and a gauge of their load;
clients share the accounting of their endpoints. The system holds them all, with the client calls
under way and one clock.
-/

namespace Inclusion

/-- Whom a registration with the monitor concerns. -/
inductive Watcher where
  /-- The supervisor of a task. -/
  | supervisor (task : Nat)
  /-- Somebody outside who is to be told. -/
  | callback (name : Nat)
  /-- Somebody outside who waits. -/
  | waiter (name : Nat)
deriving DecidableEq, Repr

/-- Whom a client call is made for. -/
inductive Owner where
  | loop (task : Nat) (party : Party)
  | poller (id : Nat)
  /-- Somebody outside. -/
  | caller (name : Nat)
deriving DecidableEq, Repr

/-- A client call under way. It stays after its owner has the verdict, until its last leg ends. -/
structure CallRecord where
  id : Nat
  /-- Who waits for the verdict; `none` once it is delivered. -/
  owner : Option Owner
  call : Call
deriving DecidableEq

/-- A confirmation engine. -/
structure Engine where
  config : ConfirmerConfig
  promoteAddress : Hash
  general : Nat
  tipSelection : Nat
  proofOfWork : Nat
  /-- Whether a task was started and has not ended. -/
  running : Bool := false
  activeLoops : Nat := 0
  /-- The bundle of the task started last. -/
  bundle : Option Hash := none
deriving DecidableEq

namespace Engine

/-- The client that fills a role. -/
def client (engine : Engine) : Role → Nat
  | .general => engine.general
  | .tipSelection => engine.tipSelection
  | .proofOfWork => engine.proofOfWork

/-- The task of an engine for a bundle with the given tail, started now, if the times computed from
its settings exist. -/
def task? (engine : Engine) (tail : Transaction) (trytes : List String) (now : Nat) :
    Option Task := do
  let force ← engine.config.forceReattachAfter?
  let forced ← Clock.moment? now force.nanoseconds
  return Task.start ⟨tail.bundle, engine.promoteAddress, engine.config, force.nanoseconds⟩ tail
    trytes now forced

/-- An engine with the given settings, whose clients fill the roles in order. -/
def build (config : ConfirmerConfig) (general tipSelection proofOfWork : Nat) :
    Except ConfirmerError Engine :=
  match config.validate with
  | .error fault => .error (.invalidConfig fault.message)
  | .ok promoteAddress => .ok { config, promoteAddress, general, tipSelection, proofOfWork }

end Engine

/-- A task and the engine that runs it. -/
structure TaskRecord where
  engine : Nat
  task : Task
deriving DecidableEq

/-- A whole system. -/
structure System where
  now : Nat := 0
  health : Health := {}
  clients : List Client := []
  calls : List CallRecord := []
  nextCall : Nat := 0
  stopwatch : Stopwatch := {}
  /-- The number of checking loops at work. -/
  load : Nat := 0
  monitor : Monitor Watcher
  /-- The client that the monitor asks. -/
  monitorClient : Nat := 0
  /-- The completed registrations whose owners have not been told yet. -/
  callbacks : List (Hash × Registration Watcher) := []
  engines : List Engine := []
  /-- All tasks ever started. -/
  tasks : List TaskRecord := []

namespace System

/-- The task of a number. -/
def task? (system : System) (id : Nat) : Option Task :=
  (system.tasks[id]?).map TaskRecord.task

/-- Replaces a task. -/
def setTask (system : System) (id : Nat) (task : Task) : System :=
  { system with tasks := system.tasks.modify id fun record => { record with task } }

/-- Changes an engine. -/
def modifyEngine (system : System) (id : Nat) (change : Engine → Engine) : System :=
  { system with engines := system.engines.modify id change }

/-- The call of a number. -/
def call? (system : System) (id : Nat) : Option CallRecord :=
  system.calls.find? fun record => record.id = id

/-- Replaces a call, or removes it if it has neither an owner nor an open leg. -/
def setCall (system : System) (record : CallRecord) : System :=
  if record.owner.isNone && record.call.legs.isEmpty then
    { system with calls := system.calls.filter fun other => other.id ≠ record.id }
  else
    { system with
      calls := system.calls.map fun other => if other.id = record.id then record else other }

/-- What a task sees of the system. -/
def surroundings (system : System) : Task.Surroundings :=
  ⟨system.now, system.load, system.monitor.nextId⟩

end System

end Inclusion
