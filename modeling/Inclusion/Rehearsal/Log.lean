import Inclusion.Node.Wire
import Inclusion.Monitor.Error
import Inclusion.Clock

/-!
# What a rehearsal writes down

The occurrences that nodes and callers notice, each with its time. Occurrences of one moment have no
order of their own; they are listed by their written form.
-/

namespace Inclusion

/-- The written name of an operation. -/
def Operation.name : Operation → String
  | selectTips => "select_tips"
  | checkConsistency => "check_consistency"
  | getInclusionStates => "get_inclusion_states"
  | findTransactions => "find_transactions"
  | getBalances => "get_balances"
  | prepareTransfers => "prepare_transfers"
  | attachToTangle => "attach_to_tangle"
  | storeAndBroadcast => "store_and_broadcast"

namespace Rehearsal

/-- Something that is written down. -/
inductive Occurrence where
  /-- A call arrives at a node. -/
  | called (node : String) (operation : Operation)
  /-- A node selects tips at a depth. -/
  | depth (node : String) (steps : Nat)
  /-- A node checks transactions. -/
  | tails (node : String) (hashes : List Hash)
  | prepared (node seed : String) (transfers : List Transfer) (security : Nat)
  /-- A node attaches trytes: so many, the hash of the first, and the hash of the tail of the
  outcome. -/
  | attached (node : String) (trunk branch : Hash) (weight count : Nat) (first tail : Option Hash)
  | broadcast (node : String) (count : Nat)
  /-- A callback runs. -/
  | fired (id : String)
  /-- Somebody has waited. -/
  | waited (id : String) (outcome : Except MonitorError Unit)

/-- A hash, or null. -/
def optionalHash : Option Hash → Json
  | some hash => .text hash.text
  | none => .null

/-- The written form of the outcome of waiting. -/
def waitedJson : Except MonitorError Unit → Json
  | .ok () => .text "ok"
  | .error error => .record [("error", .text "Cancelled"), ("message", .text error.message)]

/-- The written form of an occurrence, with its time in milliseconds. -/
def Occurrence.json (time : Nat) : Occurrence → Json
  | called node operation =>
    .array [.nat time, .text "call", .text node, .text operation.name]
  | depth node steps => .array [.nat time, .text "depth", .text node, .nat steps]
  | tails node hashes =>
    .array [.nat time, .text "tails", .text node, .array (hashes.map fun hash => .text hash.text)]
  | prepared node seed transfers security =>
    .array [.nat time, .text "prepare", .text node, .text seed,
      .array (transfers.map Transfer.json), .record [("security", .nat security)]]
  | attached node trunk branch weight count first tail =>
    .array [.nat time, .text "attach", .text node, .text trunk.text, .text branch.text, .nat weight,
      .nat count, optionalHash first, optionalHash tail]
  | broadcast node count => .array [.nat time, .text "broadcast", .text node, .nat count]
  | fired id => .array [.nat time, .text "fired", .text id]
  | waited id outcome => .array [.nat time, .text "waited", .text id, waitedJson outcome]

/-- Occurrences with their times. -/
abbrev Log := List (Nat × Occurrence)

/-- The written form of a log, ordered by time and within a moment by the text of the entries. -/
def Log.json (log : Log) : List Json :=
  let entries := log.map fun (time, occurrence) =>
    let json := occurrence.json (Clock.toMilliseconds time)
    (time, json.compact, json)
  let ordered := entries.mergeSort fun (time, text, _) (otherTime, otherText, _) =>
    time < otherTime || (time = otherTime && text ≤ otherText)
  ordered.map fun (_, _, json) => json

end Rehearsal

end Inclusion
