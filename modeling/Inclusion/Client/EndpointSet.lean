import Inclusion.Node.Contract
import Inclusion.Config.Endpoint
import Inclusion.Health

/-!
# Sets of endpoints

A client speaks to a set of nodes under one label. A set is never empty and none of its timeouts is
zero; both are part of its type. The first node of a set is the one that is asked for whatever may
not be done twice.
-/

namespace Inclusion

/-- Why a client call, or the making of a client, failed. -/
inductive ApiError where
  | invalidConfig (reason : String)
  /-- A call failed at an endpoint after so many nanoseconds. -/
  | call (endpoint : String) (elapsed : Nat) (cause : NodeError)
deriving DecidableEq

/-- The wording of each cause. -/
def ApiError.message : ApiError → String
  | invalidConfig reason => "invalid endpoint configuration: " ++ reason
  | call endpoint _ cause => endpoint ++ ": " ++ cause.message

/-- A node and the longest a call to it may take. -/
structure Endpoint where
  name : String
  timeout : Duration
deriving DecidableEq

/-- The endpoints of one role. -/
structure EndpointSet where
  label : String
  endpoints : List Endpoint
  nonempty : endpoints ≠ []
  timeouts_positive : endpoints.all (fun endpoint => endpoint.timeout.nanoseconds ≠ 0) = true

namespace EndpointSet

/-- The set of the given endpoints. The first endpoint without a positive timeout is named. -/
def ofEndpoints (label : String) (endpoints : List Endpoint) : Except ApiError EndpointSet :=
  if nonempty : endpoints ≠ [] then
    if positive : endpoints.all (fun endpoint => endpoint.timeout.nanoseconds ≠ 0) = true then
      .ok ⟨label, endpoints, nonempty, positive⟩
    else
      match endpoints.find? fun endpoint => endpoint.timeout.nanoseconds = 0 with
      | some endpoint => .error (.invalidConfig (endpoint.name ++ ": timeout must be positive"))
      | none => .error (.invalidConfig (label ++ ": timeout must be positive"))
  else .error (.invalidConfig (label ++ ": no endpoints"))

/-- The set of configured endpoints. Their addresses are not looked at. -/
def ofConfigs (label : String) (configs : List EndpointConfig) : Except ApiError EndpointSet :=
  ofEndpoints label (configs.map fun config => ⟨config.url, config.timeout⟩)

/-- The number of endpoints. -/
def size (set : EndpointSet) : Nat :=
  set.endpoints.length

/-- Whether there is no endpoint, which never happens. -/
def isEmpty (set : EndpointSet) : Bool :=
  set.endpoints.isEmpty

/-- The endpoint that is asked for what may not be done twice. -/
def first (set : EndpointSet) : Endpoint :=
  set.endpoints.head set.nonempty

end EndpointSet

/-- A set of endpoints, each with the handle under which its calls are booked. -/
structure Client where
  set : EndpointSet
  handles : List Nat

namespace Client

/-- Registers endpoints under a label, in their order. -/
def registerAll (label : String) : Health → List Endpoint → Health × List Nat
  | health, [] => (health, [])
  | health, _ :: rest =>
    let (health, handle) := health.register label
    let (health, handles) := registerAll label health rest
    (health, handle :: handles)

/-- The client of a set, whose endpoints are registered under its label. -/
def ofSet (health : Health) (set : EndpointSet) : Health × Client :=
  let (health, handles) := registerAll set.label health set.endpoints
  (health, ⟨set, handles⟩)

end Client

end Inclusion
