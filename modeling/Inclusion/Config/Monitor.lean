import Inclusion.Config.Reading
import Inclusion.Duration

/-! The settings of the confirmation monitor: how often to ask, and how to reach the feed. -/

namespace Inclusion

/-- How long to wait before the feed is connected again. -/
structure ReconnectionConfig where
  initialBackoffSeconds : UInt64 := 1
  maxBackoffSeconds : UInt64 := 60
deriving DecidableEq, Repr

/-- Settings of the monitor. -/
structure MonitorConfig where
  /-- The pause between two queries while no feed is connected. -/
  pollIntervalSeconds : UInt64 := 30
  /-- The pause while the feed is connected, when a query only guards against a missed notice. -/
  pushPollIntervalSeconds : UInt64 := 300
  pushUrl : Option String := none
  reconnection : ReconnectionConfig := {}
deriving DecidableEq, Repr

namespace ReconnectionConfig

/-- The names of the fields. Neither has a default once the record is written at all. -/
def fieldNames : List String :=
  ["initial_backoff_secs", "max_backoff_secs"]

/-- The settings that a document writes. -/
def read? (tree : Json.Syntax) : Option ReconnectionConfig := do
  let fields ← Config.fields? fieldNames tree
  return {
    initialBackoffSeconds := ← Config.word64? (← fields.at 0)
    maxBackoffSeconds := ← Config.word64? (← fields.at 1) }

end ReconnectionConfig

namespace MonitorConfig

/-- The pause between two queries for one bundle. -/
def pollInterval (config : MonitorConfig) (pushConnected : Bool) : Duration :=
  .ofSeconds (if pushConnected then config.pushPollIntervalSeconds.toNat
    else config.pollIntervalSeconds.toNat)

/-- The names of the fields. -/
def fieldNames : List String :=
  ["poll_interval_secs", "push_poll_interval_secs", "push_url", "reconnection"]

/-- The settings that a document writes. Every missing field takes its default. -/
def read? (tree : Json.Syntax) : Option MonitorConfig := do
  let fields ← Config.fields? fieldNames tree
  return {
    pollIntervalSeconds := ← Config.orDefault Config.word64? 30 (fields.at 0)
    pushPollIntervalSeconds := ← Config.orDefault Config.word64? 300 (fields.at 1)
    pushUrl := ← Config.orDefault Config.optionalText? none (fields.at 2)
    reconnection := ← Config.orDefault ReconnectionConfig.read? {} (fields.at 3) }

end MonitorConfig

end Inclusion
