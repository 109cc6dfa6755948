import Inclusion.Rehearsal.Log
import Inclusion.Client.Call
import Inclusion.Transaction.Tail

/-!
# Scripted nodes

A scripted node answers by a script, which may be changed at any time. When a call arrives the
script says how long the node takes; what it answers is looked up when that time is over.
Attachments are real: the trytes are given the references and a running number, and encoded anew.
-/

namespace Inclusion.Rehearsal

/-- What a scripted node does to what it attaches, beyond attaching it. -/
inductive AttachMode where
  | normal
  /-- The bundle is replaced. -/
  | foreign
  /-- No index is zero. -/
  | noTail
  /-- Nothing is returned. -/
  | empty
  /-- Something is returned that is no transaction. -/
  | garbage
deriving DecidableEq, Repr

/-- How a scripted node fails. -/
inductive Failure where
  | node (reason : String)
  | decode (reason : String)
deriving DecidableEq, Repr

/-- The error of a failure. -/
def Failure.error : Failure → NodeError
  | node reason => .node reason
  | decode reason => .decode reason

/-- The hash of one letter. -/
def letterHash (letter : Char) : Hash :=
  Hash.ofTrytes (List.replicate hashLength ((Tryte.ofLetter? letter).getD .nine))

/-- What a scripted node does. -/
structure Script where
  /-- The milliseconds a call takes, unless its operation has its own. -/
  delay : Nat := 0
  delays : List (Operation × Nat) := []
  /-- A failure of every call. -/
  failAll : Option Failure := none
  fail : List (Operation × Failure) := []
  trunk : Hash := letterHash 'T'
  branch : Hash := letterHash 'R'
  consistent : Bool := true
  info : String := ""
  /-- The inclusion states of any question, if they are given. -/
  states : Option (List Bool) := none
  confirmed : List Hash := []
  found : List (Hash × List Hash) := []
  prepare : List String := []
  attach : AttachMode := .normal
  balances : List (Hash × Nat) := []

/-- A scripted node. -/
structure ScriptedNode where
  name : String
  script : Script
  /-- The attachments so far. -/
  attachments : Nat := 0
  /-- The calls that arrived, by operation. -/
  calls : List (Operation × Nat) := []

namespace Script

/-- The milliseconds that a call takes. -/
def delayOf (script : Script) (operation : Operation) : Nat :=
  (script.delays.lookup operation).getD script.delay

/-- The failure of a call. -/
def failureOf (script : Script) (operation : Operation) : Option Failure :=
  script.failAll.or (script.fail.lookup operation)

/-- The largest balance. -/
def largestBalance : Nat := Nat.pow 2 64 - 1

end Script

namespace ScriptedNode

/-- A node after a call has arrived. -/
def count (node : ScriptedNode) (operation : Operation) : ScriptedNode :=
  let rec raise : List (Operation × Nat) → List (Operation × Nat)
    | [] => [(operation, 1)]
    | (other, calls) :: rest =>
      if other = operation then (other, calls + 1) :: rest else (other, calls) :: raise rest
  { node with calls := raise node.calls }

/-- One transaction attached. -/
def attachOne (mode : AttachMode) (trunk branch : Hash) (number : Nat) (text : String) :
    Except TrytesError String := do
  let transaction ← Transaction.decode text
  let attached : Transaction :=
    { transaction with
      trunk := trunk, branch := branch, attachmentTimestamp := Int64.ofNat number }
  match mode with
  | .foreign => Transaction.encode { attached with bundle := letterHash 'C' }
  | .noTail => Transaction.encode { attached with currentIndex := attached.currentIndex + 1 }
  | _ => attached.encode

/-- The trytes that a node returns for an attachment. -/
def attach (mode : AttachMode) (trunk branch : Hash) (number : Nat) (trytes : List String) :
    Except TrytesError (List String) :=
  match trytes.mapM (attachOne mode trunk branch number) with
  | .error error => .error error
  | .ok attached =>
    match mode with
    | .empty => .ok []
    | .garbage => .ok ["ABC"]
    | _ => .ok attached

/-- The hash of the first of some trytes, if it is a transaction. -/
def firstHash (trytes : List String) : Option Hash :=
  (trytes.head?).bind fun text => (readTransactionHash text).toOption

/-- What a node answers to a request, what it writes down, and the node afterwards. -/
def answer (node : ScriptedNode) : Request → Outcome × List Occurrence × ScriptedNode
  | .selectTips depth =>
    (.replied (.tips ⟨node.script.trunk, node.script.branch⟩), [.depth node.name depth], node)
  | .checkConsistency tails =>
    (.replied (.consistency ⟨node.script.consistent, node.script.info⟩), [.tails node.name tails],
      node)
  | .getInclusionStates transactions =>
    (.replied (.flags (node.script.states.getD
      (transactions.map fun hash => decide (hash ∈ node.script.confirmed)))), [], node)
  | .findTransactions bundles =>
    (.replied (.hashes (bundles.flatMap fun bundle =>
      (node.script.found.lookup bundle).getD [bundle])), [], node)
  | .getBalances addresses threshold =>
    (.replied (.amounts (addresses.map fun address =>
      min Script.largestBalance ((node.script.balances.lookup address).getD 0 + threshold))), [],
      node)
  | .prepareTransfers seed transfers security =>
    (.replied (.trytes node.script.prepare), [.prepared node.name seed transfers security], node)
  | .attachToTangle trunk branch weight trytes =>
    let attached := { node with attachments := node.attachments + 1 }
    match attach node.script.attach trunk branch attached.attachments trytes with
    | .error error => (.failed (.decode error.message), [], attached)
    | .ok output =>
      (.replied (.trytes output),
        [.attached node.name trunk branch weight trytes.length (firstHash trytes)
          ((tailOf output).toOption.map Transaction.hash)], attached)
  | .storeAndBroadcast trytes =>
    (.replied .done, [.broadcast node.name trytes.length], node)

/-- What a node answers, unless its script says that it fails. -/
def serve (node : ScriptedNode) (request : Request) :
    Outcome × List Occurrence × ScriptedNode :=
  match node.script.failureOf request.operation with
  | some failure => (.failed failure.error, [], node)
  | none => node.answer request

end ScriptedNode

end Inclusion.Rehearsal
