import Inclusion.Node.Wire
import Inclusion.Json.Parser

/-!
# Exchanging documents with a node

Each command goes out on a connection of its own and gets one delivery. The commands of a request go
out one after another, each only when the one before it was accepted, and the last reply answers the
request. Nothing is sent twice, and the status that comes with a reply is of no concern.

The documents are read with the given reader of real numbers.
-/

namespace Inclusion

variable (reals : Json.RealReader)

/-- What comes back on a connection. -/
inductive Delivery where
  /-- A text, which ought to be a document. -/
  | body (text : String)
  /-- The connection ends without an answer. -/
  | closed
  /-- There is no answer while the node's time lasts. -/
  | silence
deriving DecidableEq, Repr

/-- The document that a delivery brings. -/
def Delivery.document : Delivery → Except NodeError Json
  | body text =>
    match Json.parse? reals text with
    | some document => .ok document
    | none => .error (.http "the answer is no document")
  | closed => .error (.http "the connection was closed")
  | silence => .error (.http "there was no answer")

/-- A node at the other end: the deliveries to come, and the commands that have arrived. Without
further deliveries it refuses the connection, so that no command arrives. -/
structure RemoteNode where
  deliveries : List Delivery := []
  arrived : List Json := []

namespace RemoteNode

/-- The version of the interface that every command asks for. -/
def interfaceVersion : String := "1"

/-- The kind of content that every command announces. -/
def contentType : String := "application/json"

/-- Sends a command: the document that comes back. -/
def send (node : RemoteNode) (command : Json) : RemoteNode × Except NodeError Json :=
  match node.deliveries with
  | [] => (node, .error (.http "the connection was refused"))
  | delivery :: rest => (⟨rest, node.arrived ++ [command]⟩, delivery.document reals)

/-- Sends the commands of a request, up to the first that fails. -/
def sendAll (request : Request) : RemoteNode → List Json → RemoteNode × Except NodeError Reply
  | node, [] => (node, .ok .done)
  | node, [last] =>
    let (after, delivered) := node.send reals last
    (after, delivered >>= Wire.reply request)
  | node, command :: rest =>
    match node.send reals command with
    | (after, .error error) => (after, .error error)
    | (after, .ok document) =>
      match Wire.accepted document with
      | .error error => (after, .error error)
      | .ok _ => sendAll request after rest

/-- Puts a request to the node. -/
def ask (node : RemoteNode) (request : Request) : RemoteNode × Except NodeError Reply :=
  node.sendAll reals request (Wire.commands request)

/-- Asks the node whether a bundle is confirmed: for its transactions, and if there are any for
their inclusion. -/
def askInclusion (node : RemoteNode) (bundle : Hash) : RemoteNode × Except NodeError Bool :=
  match node.ask reals (.findTransactions [bundle]) with
  | (after, .ok (.hashes found)) =>
    if found.isEmpty then (after, .ok false)
    else
      match after.ask reals (.getInclusionStates found) with
      | (final, .ok (.flags flags)) => (final, .ok (flags.any id))
      | (final, .ok _) => (final, .ok false)
      | (final, .error error) => (final, .error error)
  | (after, .ok _) => (after, .ok false)
  | (after, .error error) => (after, .error error)

end RemoteNode

end Inclusion
