/-!
# Accounting of endpoint calls

Outcomes of calls are counted under labels. A call is booked on the handle that its endpoint got
when it was registered, so one node registered under two labels is counted under each of them
separately. Nothing here ever refuses a call.

Errors are also remembered by their time, at most a hundred of them and none for longer than ten
minutes. Old ones are dropped whenever the label is touched, which no later answer can tell.
-/

namespace Inclusion

/-- The figures of one label. -/
structure EndpointStats where
  calls : Nat
  errors : Nat
  recentErrors : Nat
deriving DecidableEq, Repr, Inhabited

/-- What is counted under one label. The times of recent errors are in order of recording. -/
structure LabelCounters where
  calls : Nat := 0
  errors : Nat := 0
  recent : List Nat := []
deriving DecidableEq, Repr, Inhabited

/-- The accounts of all labels. -/
structure Health where
  /-- The label of each handle, in order of registration; the first handle is one. -/
  labels : List String := []
  /-- The counters of every label ever used, ordered by label. -/
  counters : List (String × LabelCounters) := []
deriving DecidableEq, Repr, Inhabited

namespace Health

/-- The label of calls booked on a handle that was never given out. -/
def unregisteredLabel : String := "???"

/-- The number of recent errors that are remembered. -/
def maxRecentErrors : Nat := 100

/-- The nanoseconds for which an error is recent. -/
def recentWindow : Nat := 10 * 60 * 1000000000

end Health

namespace LabelCounters

/-- The recent errors still remembered at a time: the last hundred, less those that are older than
the window. -/
def remembered (now : Nat) (recent : List Nat) : List Nat :=
  (recent.drop (recent.length - Health.maxRecentErrors)).dropWhile
    fun time => Health.recentWindow < now - time

/-- Forgets errors that are no longer recent. -/
def prune (now : Nat) (counters : LabelCounters) : LabelCounters :=
  { counters with recent := remembered now counters.recent }

/-- Counts one call. -/
def record (now : Nat) (failed : Bool) (counters : LabelCounters) : LabelCounters :=
  if failed then
    { calls := counters.calls + 1
      errors := counters.errors + 1
      recent := remembered now (counters.recent ++ [now]) }
  else { counters with calls := counters.calls + 1, recent := remembered now counters.recent }

/-- The figures at a time. -/
def stats (now : Nat) (counters : LabelCounters) : EndpointStats :=
  ⟨counters.calls, counters.errors, (remembered now counters.recent).length⟩

end LabelCounters

namespace Health

/-- Changes the counters of a label, which start at zero, and keeps the labels in order. -/
def adjust (change : LabelCounters → LabelCounters) (label : String) :
    List (String × LabelCounters) → List (String × LabelCounters)
  | [] => [(label, change {})]
  | (other, counters) :: rest =>
    if label < other then (label, change {}) :: (other, counters) :: rest
    else if label = other then (label, change counters) :: rest
    else (other, counters) :: adjust change label rest

/-- Registers an endpoint under a label and gives it a handle; the label has figures from now on. -/
def register (health : Health) (label : String) : Health × Nat :=
  ({ labels := health.labels ++ [label], counters := adjust id label health.counters },
    health.labels.length + 1)

/-- The label that a handle was given for. -/
def labelOf (health : Health) (handle : Nat) : String :=
  if handle = 0 then unregisteredLabel
  else (health.labels[handle - 1]?).getD unregisteredLabel

/-- Books one outcome on a handle. -/
def record (health : Health) (handle : Nat) (failed : Bool) (now : Nat) : Health :=
  { health with
    counters := adjust (LabelCounters.record now failed) (health.labelOf handle) health.counters }

/-- The figures of a label, which are zero for one never used. -/
def stats (health : Health) (label : String) (now : Nat) : EndpointStats :=
  match health.counters.lookup label with
  | some counters => counters.stats now
  | none => ⟨0, 0, 0⟩

/-- Forgets what is no longer recent under a label. -/
def prune (health : Health) (label : String) (now : Nat) : Health :=
  { health with
    counters := health.counters.map fun entry =>
      if entry.1 = label then (entry.1, entry.2.prune now) else entry }

/-- Reads the figures of a label, forgetting under it what is no longer recent. -/
def read (health : Health) (label : String) (now : Nat) : Health × EndpointStats :=
  (health.prune label now, health.stats label now)

/-- The figures of all labels ever used, in the order of the labels. -/
def snapshot (health : Health) (now : Nat) : List (String × EndpointStats) :=
  health.counters.map fun entry => (entry.1, entry.2.stats now)

/-- Reads the figures of all labels, forgetting everything that is no longer recent. -/
def readAll (health : Health) (now : Nat) : Health × List (String × EndpointStats) :=
  ({ health with counters := health.counters.map fun entry => (entry.1, entry.2.prune now) },
    health.snapshot now)

end Health

end Inclusion
