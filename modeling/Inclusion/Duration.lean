/-!
# Durations

A duration is a whole number of nanoseconds whose seconds fit 64 bits. Arithmetic that leaves this
range has no result; nothing wraps around.
-/

namespace Inclusion

/-- A span of time. -/
structure Duration where
  nanoseconds : Nat
deriving DecidableEq, Repr, Inhabited

namespace Duration

/-- The seconds that a duration can hold lie below this bound. -/
def secondsBound : Nat := Nat.pow 2 64

/-- Whole seconds and a remainder in nanoseconds. -/
def ofParts (seconds nanoseconds : Nat) : Duration :=
  ⟨seconds * 1000000000 + nanoseconds⟩

/-- Whole seconds. -/
def ofSeconds (seconds : Nat) : Duration :=
  ofParts seconds 0

/-- Whole milliseconds. -/
def ofMilliseconds (milliseconds : Nat) : Duration :=
  ⟨milliseconds * 1000000⟩

/-- The whole seconds of a duration. -/
def seconds (duration : Duration) : Nat :=
  duration.nanoseconds / 1000000000

/-- The whole milliseconds of a duration. -/
def milliseconds (duration : Duration) : Nat :=
  duration.nanoseconds / 1000000

/-- Twice the duration, if that is a duration. -/
def double? (duration : Duration) : Option Duration :=
  if 2 * duration.seconds + 2 * (duration.nanoseconds % 1000000000) / 1000000000 < secondsBound then
    some ⟨2 * duration.nanoseconds⟩
  else none

/-- A remainder in `places` decimal places without the zeros at its end, after a point unless
nothing is left. -/
def decimals (places remainder : Nat) : List Char :=
  let digits := Nat.toDigits 10 remainder
  let written := List.replicate (places - digits.length) '0' ++ digits
  let kept := (written.reverse.dropWhile (· = '0')).reverse
  if kept.isEmpty then [] else '.' :: kept

/-- A number of nanoseconds in a unit that holds `10 ^ places` of them. -/
def inUnit (places nanoseconds : Nat) (unit : String) : String :=
  toString (nanoseconds / Nat.pow 10 places) ++
    String.ofList (decimals places (nanoseconds % Nat.pow 10 places)) ++ unit

/-- The written form, in the largest unit of which there is at least one. -/
def text (duration : Duration) : String :=
  if 1000000000 ≤ duration.nanoseconds then inUnit 9 duration.nanoseconds "s"
  else if 1000000 ≤ duration.nanoseconds then inUnit 6 duration.nanoseconds "ms"
  else if 1000 ≤ duration.nanoseconds then inUnit 3 duration.nanoseconds "µs"
  else toString duration.nanoseconds ++ "ns"

end Duration

end Inclusion
