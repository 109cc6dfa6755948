/-!
# Named stopwatches

A watch is started once under its name, stopped once, and read until it is removed. The clock is
given to every operation and may run backwards: a stop is never earlier than its start.
-/

namespace Inclusion

/-- A watch that was started, and may have been stopped. -/
structure StopwatchEntry where
  started : Nat
  stopped : Option Nat
deriving DecidableEq, Repr, Inhabited

/-- The watches by name; no name occurs twice. -/
structure Stopwatch where
  entries : List (String × StopwatchEntry) := []
deriving DecidableEq, Repr, Inhabited

namespace StopwatchEntry

/-- The start and the stop of a watch; for a running one the clock stands in for the stop. -/
def read (clock : Nat) (entry : StopwatchEntry) : Nat × Nat :=
  (entry.started, entry.stopped.getD (max clock entry.started))

/-- Whether the watch was not stopped yet. -/
def isRunning (entry : StopwatchEntry) : Bool :=
  entry.stopped.isNone

end StopwatchEntry

namespace Stopwatch

/-- The watch of a name. -/
def find? (stopwatch : Stopwatch) (name : String) : Option StopwatchEntry :=
  stopwatch.entries.lookup name

/-- Starts a watch. One that exists already keeps its start, and the answer is false. -/
def start (stopwatch : Stopwatch) (name : String) (clock : Nat) : Stopwatch × Bool :=
  match stopwatch.find? name with
  | some _ => (stopwatch, false)
  | none => (⟨stopwatch.entries ++ [(name, ⟨clock, none⟩)]⟩, true)

/-- Stops a running watch. The answer is false for any other, which is left alone. -/
def stop (stopwatch : Stopwatch) (name : String) (clock : Nat) : Stopwatch × Bool :=
  match stopwatch.find? name with
  | some ⟨_, none⟩ =>
    (⟨stopwatch.entries.map fun entry =>
      if entry.1 = name then (name, { entry.2 with stopped := some (max clock entry.2.started) })
      else entry⟩, true)
  | _ => (stopwatch, false)

/-- The start and the stop of a watch. -/
def get (stopwatch : Stopwatch) (name : String) (clock : Nat) : Option (Nat × Nat) :=
  (stopwatch.find? name).map (StopwatchEntry.read clock)

/-- Removes a watch. -/
def erase (stopwatch : Stopwatch) (name : String) : Stopwatch :=
  ⟨stopwatch.entries.filter fun entry => entry.1 ≠ name⟩

/-- Reads a watch for the last time. -/
def take (stopwatch : Stopwatch) (name : String) (clock : Nat) : Stopwatch × Option (Nat × Nat) :=
  (stopwatch.erase name, stopwatch.get name clock)

/-- Whether a watch was started and not stopped. -/
def isRunning (stopwatch : Stopwatch) (name : String) : Bool :=
  (stopwatch.find? name).any StopwatchEntry.isRunning

end Stopwatch

end Inclusion
