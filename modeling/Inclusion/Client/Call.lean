import Inclusion.Client.EndpointSet
import Inclusion.Clock

/-!
# One call of a client

A request that only reads is put to every endpoint of the client at once; the first success answers
the call, and if there is none the last failure does. Any other request is put to the first endpoint
alone. Each endpoint's part of the call is a leg. Legs still open when the call is answered go on to
their end, because their outcomes are booked all the same.
-/

namespace Inclusion

/-- A successful call: the value, the endpoint that gave it, and the nanoseconds it took. -/
structure Answer where
  value : Reply
  endpoint : String
  elapsed : Nat
deriving DecidableEq

/-- The whole milliseconds that a successful call took. -/
def Answer.milliseconds (answer : Answer) : Nat :=
  Clock.toMilliseconds answer.elapsed

/-- How a call ended. -/
inductive Verdict where
  | answered (answer : Answer)
  | failed (cause : ApiError)
deriving DecidableEq

/-- How the part of one endpoint in a call ended. -/
inductive Outcome where
  | replied (reply : Reply)
  | failed (cause : NodeError)
deriving DecidableEq

/-- Whether the endpoint failed. -/
def Outcome.isFailure : Outcome → Bool
  | replied _ => false
  | failed _ => true

/-- The part of one endpoint in a call. -/
structure Leg where
  /-- The place of the endpoint in its set. -/
  place : Nat
  endpoint : Endpoint
  /-- The handle under which the outcome is booked. -/
  handle : Nat
deriving DecidableEq

/-- A call under way. -/
structure Call where
  request : Request
  started : Nat
  /-- The legs that have not ended. -/
  legs : List Leg
  verdict : Option Verdict
deriving DecidableEq

namespace Leg

/-- When the endpoint's time is up. -/
def deadline (leg : Leg) (started : Nat) : Nat :=
  started + leg.endpoint.timeout.nanoseconds

end Leg

namespace Client

/-- All endpoints of a client, as legs of a call. -/
def legs (client : Client) : List Leg :=
  (client.set.endpoints.zip client.handles).mapIdx fun place (endpoint, handle) =>
    ⟨place, endpoint, handle⟩

/-- The legs of a call: all of them for a request that only reads, the first for any other. -/
def legsFor (client : Client) (request : Request) : List Leg :=
  if request.isRead then client.legs else client.legs.take 1

/-- The verdict of a call that is put to nobody, which never happens. -/
def unansweredVerdict (client : Client) : Verdict :=
  .failed (.invalidConfig (client.set.label ++ ": no endpoint answered"))

/-- A call that begins. -/
def call (client : Client) (request : Request) (now : Nat) : Call :=
  let legs := client.legsFor request
  ⟨request, now, legs, if legs.isEmpty then some client.unansweredVerdict else none⟩

end Client

namespace Call

/-- The open leg at a place. -/
def leg? (call : Call) (place : Nat) : Option Leg :=
  call.legs.find? fun leg => leg.place = place

/-- The verdict of a call after a leg has ended while the given legs are still open. A failure only
decides a call without other open legs. -/
def judge (verdict : Option Verdict) (leg : Leg) (outcome : Outcome)
    (others : List Leg) (elapsed : Nat) : Option Verdict :=
  match verdict with
  | some verdict => some verdict
  | none =>
    match outcome with
    | .replied value => some (.answered ⟨value, leg.endpoint.name, elapsed⟩)
    | .failed cause =>
      if others.isEmpty then some (.failed (.call leg.endpoint.name elapsed cause)) else none

/-- The call after one of its legs has ended. -/
def endLeg (call : Call) (leg : Leg) (outcome : Outcome) (now : Nat) : Call :=
  let others := call.legs.filter fun other => other.place ≠ leg.place
  { call with
    legs := others
    verdict := judge call.verdict leg outcome others (now - call.started) }

end Call

end Inclusion
