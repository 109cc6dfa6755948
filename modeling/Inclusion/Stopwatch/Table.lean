/-!
# Stopwatches in two numbers

The times of a watch are kept as two numbers, told by a clock that began long ago: the time of its
start, and the time of its stop or zero. So nothing but a zero says that a watch runs, and a clock
that tells zero would stop a watch without a trace.
-/

namespace Inclusion

/-- The times of a watch. -/
structure WatchTimes where
  started : Nat
  /-- Zero as long as the watch runs. -/
  stopped : Nat
deriving DecidableEq, Repr, Inhabited

/-- The times by name; no name occurs twice. -/
structure WatchTable where
  entries : List (String × WatchTimes) := []
deriving DecidableEq, Repr, Inhabited

namespace WatchTimes

/-- Whether the watch was not stopped yet. -/
def isRunning (times : WatchTimes) : Bool :=
  times.stopped = 0

/-- The start and the stop of a watch; for a running one the clock stands in for the stop. -/
def read (clock : Nat) (times : WatchTimes) : Nat × Nat :=
  (times.started, if times.stopped = 0 then max clock times.started else times.stopped)

end WatchTimes

namespace WatchTable

/-- The times of a name. -/
def find? (table : WatchTable) (name : String) : Option WatchTimes :=
  table.entries.lookup name

/-- Starts a watch. One that exists already keeps its start, and the answer is false. -/
def start (table : WatchTable) (name : String) (clock : Nat) : WatchTable × Bool :=
  match table.find? name with
  | some _ => (table, false)
  | none => (⟨table.entries ++ [(name, ⟨clock, 0⟩)]⟩, true)

/-- Stops a running watch. The answer is false for any other, which is left alone. -/
def stop (table : WatchTable) (name : String) (clock : Nat) : WatchTable × Bool :=
  match table.find? name with
  | none => (table, false)
  | some times =>
    if times.stopped = 0 then
      (⟨table.entries.map fun entry =>
        if entry.1 = name then (name, { entry.2 with stopped := max clock entry.2.started })
        else entry⟩, true)
    else (table, false)

/-- The start and the stop of a watch. -/
def get (table : WatchTable) (name : String) (clock : Nat) : Option (Nat × Nat) :=
  (table.find? name).map (WatchTimes.read clock)

/-- Removes a watch. -/
def erase (table : WatchTable) (name : String) : WatchTable :=
  ⟨table.entries.filter fun entry => entry.1 ≠ name⟩

/-- Reads a watch for the last time. -/
def take (table : WatchTable) (name : String) (clock : Nat) :
    WatchTable × Option (Nat × Nat) :=
  (table.erase name, table.get name clock)

/-- Whether a watch was started and not stopped. -/
def isRunning (table : WatchTable) (name : String) : Bool :=
  (table.find? name).any WatchTimes.isRunning

end WatchTable

end Inclusion
