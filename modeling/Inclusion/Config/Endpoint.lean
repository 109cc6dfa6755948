import Inclusion.Config.Reading
import Inclusion.Duration

/-! The settings of one node: where it is and how long a call to it may take. -/

namespace Inclusion

/-- Settings of an endpoint. -/
structure EndpointConfig where
  url : String
  timeoutSeconds : UInt64 := 10
deriving DecidableEq, Repr

namespace EndpointConfig

/-- The longest a call may take. -/
def timeout (config : EndpointConfig) : Duration :=
  .ofSeconds config.timeoutSeconds.toNat

/-- The names of the fields. The address has no default. -/
def fieldNames : List String :=
  ["url", "timeout_secs"]

/-- The settings that a document writes. -/
def read? (tree : Json.Syntax) : Option EndpointConfig := do
  let fields ← Config.fields? fieldNames tree
  return {
    url := ← Config.text? (← fields.at 0)
    timeoutSeconds := ← Config.orDefault Config.word64? 10 (fields.at 1) }

end EndpointConfig

end Inclusion
