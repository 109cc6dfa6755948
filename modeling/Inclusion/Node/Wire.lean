import Inclusion.Node.Contract
import Inclusion.Json.Basic
import Inclusion.Text.Numeral

/-!
# Requests and replies as documents

A node takes commands, each of which is a document, and sends a document back for each. A request
is carried out by one command, except that trytes are stored before they are broadcast, which
takes two.

A document with a member `error`, or else a member `exception`, refuses the command, whatever else
it holds. Any other document is read for the one member that the request is about, all of it or
nothing: first its shape is judged and then its elements in order.
-/

namespace Inclusion

/-- The document of a transfer. -/
def Transfer.json (transfer : Transfer) : Json :=
  .record [("address", .text transfer.address.text), ("value", .nat transfer.value),
    ("tag", .text transfer.tag), ("message", .text transfer.message)]

namespace Wire

/-- Hashes as an array of texts. -/
def hashes (hashes : List Hash) : Json :=
  .array (hashes.map fun hash => .text hash.text)

/-- Trytes as an array of texts. -/
def trytes (trytes : List String) : Json :=
  .array (trytes.map .text)

/-- A command and its arguments. -/
def command (name : String) (arguments : List (String × Json)) : Json :=
  .record (("command", .text name) :: arguments)

/-- The commands that carry out a request, in their order. -/
def commands : Request → List Json
  | .selectTips depth => [command "getTransactionsToApprove" [("depth", .nat depth)]]
  | .checkConsistency tails => [command "checkConsistency" [("tails", hashes tails)]]
  | .getInclusionStates transactions =>
    [command "getInclusionStates" [("transactions", hashes transactions)]]
  | .findTransactions bundles => [command "findTransactions" [("bundles", hashes bundles)]]
  | .getBalances addresses threshold =>
    [command "getBalances" [("addresses", hashes addresses), ("threshold", .nat threshold)]]
  | .prepareTransfers seed transfers security =>
    [command "prepareTransfers" [("seed", .text seed),
      ("transfers", .array (transfers.map Transfer.json)), ("security", .nat security)]]
  | .attachToTangle trunk branch weight content =>
    [command "attachToTangle" [("trunkTransaction", .text trunk.text),
      ("branchTransaction", .text branch.text), ("minWeightMagnitude", .nat weight),
      ("trytes", trytes content)]]
  | .storeAndBroadcast content =>
    [command "storeTransactions" [("trytes", trytes content)],
      command "broadcastTransactions" [("trytes", trytes content)]]

/-- The reason of a refusal: its text, or the written form of what is no text. -/
def reasonOf : Json → String
  | .text reason => reason
  | value => value.compact

/-- Why a document refuses its command, if it does. -/
def refusal? (document : Json) : Option String :=
  ((document.member? "error").or (document.member? "exception")).map reasonOf

/-- A document that does not refuse its command. -/
def accepted (document : Json) : Except NodeError Json :=
  match refusal? document with
  | some reason => .error (.node reason)
  | none => .ok document

/-- The member of a document that has to be there. -/
def required (name : String) (document : Json) : Except NodeError Json :=
  match document.member? name with
  | some value => .ok value
  | none => .error (.decode ("missing " ++ name))

/-- The items of a member that has to be an array. -/
def requiredArray (name : String) (document : Json) : Except NodeError (List Json) := do
  match (← required name document).array? with
  | some items => .ok items
  | none => .error (.decode (name ++ " not array"))

/-- The texts of a member that has to be an array of texts. -/
def requiredTexts (name : String) (document : Json) : Except NodeError (List String) := do
  (← requiredArray name document).mapM fun item =>
    match item.text? with
    | some text => .ok text
    | none => .error (.decode (name ++ " element not string"))

/-- The hash of a member that has to be one. -/
def requiredHash (name : String) (document : Json) : Except NodeError Hash := do
  match (← required name document).text? with
  | none => .error (.decode (name ++ " not string"))
  | some text =>
    match Hash.read text with
    | .ok hash => .ok hash
    | .error cause => .error (.decode (name ++ ": " ++ cause.message))

/-- A truth value. -/
def flag (value : Json) : Except NodeError Bool :=
  match value.bool? with
  | some flag => .ok flag
  | none => .error (.decode "state not bool")

/-- A hash of a list. -/
def hash (text : String) : Except NodeError Hash :=
  match Hash.read text with
  | .ok hash => .ok hash
  | .error cause => .error (.decode cause.message)

/-- An amount, which has 64 bits and is written as a text. -/
def amount (text : String) : Except NodeError Nat :=
  match Text.readNatural (Nat.pow 2 64) text with
  | .ok amount => .ok amount
  | .error fault => .error (.decode fault.message)

/-- What a document that does not refuse answers to a request. The information that goes with a
consistency may be missing or no text, and is empty then. -/
def content (request : Request) (document : Json) : Except NodeError Reply :=
  match request with
  | .selectTips _ => do
    let trunk ← requiredHash "trunkTransaction" document
    let branch ← requiredHash "branchTransaction" document
    return .tips ⟨trunk, branch⟩
  | .checkConsistency _ => do
    let consistent ← flag (← required "state" document)
    return .consistency ⟨consistent, ((document.member? "info").bind Json.text?).getD ""⟩
  | .getInclusionStates _ => do
    return .flags (← (← requiredArray "states" document).mapM flag)
  | .findTransactions _ => do
    return .hashes (← (← requiredTexts "hashes" document).mapM hash)
  | .getBalances _ _ => do
    return .amounts (← (← requiredTexts "balances" document).mapM amount)
  | .prepareTransfers .. | .attachToTangle .. => do
    return .trytes (← requiredTexts "trytes" document)
  | .storeAndBroadcast _ => .ok .done

/-- What a document answers to a request. -/
def reply (request : Request) (document : Json) : Except NodeError Reply :=
  accepted document >>= content request

end Wire

end Inclusion
