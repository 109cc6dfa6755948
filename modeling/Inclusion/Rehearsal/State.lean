import Inclusion.System.Step
import Inclusion.Rehearsal.Script

/-!
# The state of a rehearsal

A rehearsal runs a system against scripted nodes and consumers. It holds the system, the nodes with
the calls they are working on, the consumers with the updates they have read, and what has been
written down since the last report.
-/

namespace Inclusion.Rehearsal

/-- A call that a node is working on. -/
structure Visit where
  call : Nat
  place : Nat
  node : String
  request : Request
  /-- When the node answers. -/
  due : Nat

/-- A reader of the updates of a task, who rests after each of them. -/
structure Consumer where
  engine : Nat
  task : Nat
  /-- The milliseconds of each rest. -/
  pause : Nat
  /-- When the consumer reads again. -/
  ready : Nat
  finished : Bool := false

/-- What a rehearsal keeps of a task for whoever started it. -/
structure Keepsakes where
  /-- The task that the cancel handle of the engine is for. -/
  handle : Option Nat := none
  /-- The task whose updates are held unread. -/
  stream : Option Nat := none

/-- A rehearsal under way. -/
structure State where
  system : System
  nodes : List ScriptedNode
  /-- Whether the arrival of calls is written down. -/
  trace : Bool
  visits : List Visit := []
  consumers : List Consumer := []
  keepsakes : List Keepsakes := []
  /-- The names under which outsiders are known; a watcher or caller goes by its place. -/
  names : List String := []
  /-- The registrations of those who registered, by name. -/
  registered : List (String × Nat) := []
  /-- The callers whose calls have returned. -/
  returned : List (Nat × Verdict) := []
  /-- Outsiders whose waiting is not written down, and how it ended. -/
  quiet : List (Nat × Option (Except MonitorError Unit)) := []
  log : Log := []
  /-- What consumers have read: the time, the engine and the update, or the end. -/
  updates : List (Nat × Nat × Option Update) := []
  /-- What the last step of the system let be seen. -/
  effects : List System.Effect := []

namespace State

/-- Writes something down. -/
def note (state : State) (occurrence : Occurrence) : State :=
  { state with log := state.log ++ [(state.system.now, occurrence)] }

/-- Changes a node. -/
def modifyNode (state : State) (name : String) (change : ScriptedNode → ScriptedNode) : State :=
  { state with
    nodes := state.nodes.map fun node => if node.name = name then change node else node }

/-- The node of a name. -/
def node? (state : State) (name : String) : Option ScriptedNode :=
  state.nodes.find? fun node => node.name = name

/-- The keepsakes of an engine. -/
def keepsakesOf (state : State) (engine : Nat) : Keepsakes :=
  (state.keepsakes[engine]?).getD {}

/-- Changes the keepsakes of an engine. -/
def modifyKeepsakes (state : State) (engine : Nat) (change : Keepsakes → Keepsakes) : State :=
  { state with keepsakes := state.keepsakes.modify engine change }

/-- A call arrives at a node. -/
def arrive (state : State) (call place : Nat) (name : String) (request : Request) : State :=
  match state.node? name with
  | none => state
  | some node =>
    let counted := state.modifyNode name fun node => node.count request.operation
    let noted := if state.trace then counted.note (.called name request.operation) else counted
    { noted with
      visits := noted.visits ++
        [⟨call, place, name, request,
          Clock.waitUntil state.system.now
            (Clock.ofMilliseconds (node.script.delayOf request.operation))⟩] }

/-- How quiet waiting has ended. -/
def endQuietly (waiter : Nat) (outcome : Except MonitorError Unit) :
    List (Nat × Option (Except MonitorError Unit)) → List (Nat × Option (Except MonitorError Unit))
  | [] => []
  | (other, present) :: rest =>
    if other = waiter then (other, some outcome) :: rest
    else (other, present) :: endQuietly waiter outcome rest

/-- Takes notice of something that the system let be seen. -/
def observe (state : State) : System.Effect → State
  | .launched call place endpoint request => state.arrive call place endpoint request
  | .returned caller verdict => { state with returned := state.returned ++ [(caller, verdict)] }
  | .fired callback => state.note (.fired ((state.names[callback]?).getD ""))
  | .waited waiter outcome =>
    if state.quiet.any fun entry => entry.1 = waiter then
      { state with quiet := endQuietly waiter outcome state.quiet }
    else state.note (.waited ((state.names[waiter]?).getD "") outcome)
  | _ => state

/-- Lets an event happen to the system, if it can. -/
def happen (state : State) (event : System.Event) : Option State :=
  match state.system.step event with
  | none => none
  | some (system, effects) =>
    some (effects.foldl observe { state with system, effects })

/-- Lets an event happen to the system; nothing happens if it cannot. -/
def perform (state : State) (event : System.Event) : State :=
  (state.happen event).getD { state with effects := [] }

/-- Gives an outsider a place. -/
def introduce (state : State) (name : String) : State × Nat :=
  ({ state with names := state.names ++ [name] }, state.names.length)

end State

end Inclusion.Rehearsal
