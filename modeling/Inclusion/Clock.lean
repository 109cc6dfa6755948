/-!
# The clock

Times are nanoseconds since a system began. The clock that tells them began earlier, and its
moments come to an end far beyond the times that a system lives to see, so that a moment computed
from large settings may not exist.

A wait is bounded more narrowly: nothing that waits for time alone waits longer than thirty years,
however long it was meant to wait. What waits for something else, and for a limited time, gives up
exactly when that time is over, however long it is. A timer is taken to be exact, where a real one
may be late by its grain.
-/

namespace Inclusion.Clock

/-- The nanoseconds of so many milliseconds. -/
def ofMilliseconds (milliseconds : Nat) : Nat :=
  milliseconds * 1000000

/-- The whole milliseconds of so many nanoseconds. -/
def toMilliseconds (nanoseconds : Nat) : Nat :=
  nanoseconds / 1000000

/-- The moments of the clock, told from its own beginning, lie below this bound: their seconds fit
63 bits. -/
def bound : Nat := Nat.pow 2 63 * 1000000000

/-- The age of the clock when a system begins. A real clock is as old as its machine is by then;
here it is assumed to be ten minutes old, which fixes the last moment that exists. -/
def age : Nat := 10 * 60 * 1000000000

/-- The longest wait for time alone. It is assumed to be thirty years of 365 days, after which the
timer was observed to end longer waits. -/
def longestWait : Nat := 30 * 365 * 24 * 60 * 60 * 1000000000

/-- The moment that comes so many nanoseconds after another, if there is one. -/
def moment? (start nanoseconds : Nat) : Option Nat :=
  if age + start + nanoseconds < bound then some (start + nanoseconds) else none

/-- When a wait of so many nanoseconds for time alone is over that begins at a moment. -/
def waitUntil (start nanoseconds : Nat) : Nat :=
  start + min nanoseconds longestWait

end Inclusion.Clock
