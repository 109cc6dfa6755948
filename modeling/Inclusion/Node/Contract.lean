import Inclusion.Hash
import Inclusion.Duration

/-!
# What a ledger node is asked and what it answers

The operations that the rest of the library needs of a node, as data: a request, the reply that fits
it, and the ways in which a call can fail. How a node is reached is of no concern here, and nothing
is assumed about the truth of its replies.
-/

namespace Inclusion

/-- Two transactions to attach to. -/
structure Tips where
  trunk : Hash
  branch : Hash
deriving DecidableEq

/-- A node's opinion about a transaction. -/
structure Consistency where
  consistent : Bool
  info : String
deriving DecidableEq

namespace Consistency

/-- Whether a phrase occurs in a text. -/
def mentions (phrase : List Char) : List Char → Bool
  | [] => phrase.isEmpty
  | character :: rest => phrase.isPrefixOf (character :: rest) || mentions phrase rest

/-- The phrase by which a node says that it does not know all of a transaction's past yet. -/
def notSolid : List Char :=
  ['n', 'o', 't', ' ', 's', 'o', 'l', 'i', 'd']

/-- A transaction whose past is merely unknown can still be promoted. The phrase is found in
letters of either case. Of the letters outside ASCII only the Kelvin sign and the dotted capital I
have a small form with a letter of ASCII in it; the phrase has no k, and the small form of the
other puts a dot after its i, so folding ASCII alone finds the phrase wherever full case folding
does. -/
def isPromotable (consistency : Consistency) : Bool :=
  consistency.consistent || mentions notSolid (consistency.info.toList.map Char.toLower)

end Consistency

/-- One output of a bundle to be prepared. -/
structure Transfer where
  address : Hash
  value : Nat
  tag : String
  message : String
deriving DecidableEq

/-- The operations of a node. -/
inductive Operation where
  | selectTips
  | checkConsistency
  | getInclusionStates
  | findTransactions
  | getBalances
  | prepareTransfers
  | attachToTangle
  | storeAndBroadcast
deriving DecidableEq, Repr

/-- What a node is asked. -/
inductive Request where
  | selectTips (depth : Nat)
  | checkConsistency (tails : List Hash)
  | getInclusionStates (transactions : List Hash)
  | findTransactions (bundles : List Hash)
  | getBalances (addresses : List Hash) (threshold : Nat)
  | prepareTransfers (seed : String) (transfers : List Transfer) (security : Nat)
  | attachToTangle (trunk branch : Hash) (weight : Nat) (trytes : List String)
  | storeAndBroadcast (trytes : List String)
deriving DecidableEq

/-- What a node answers. -/
inductive Reply where
  | tips (tips : Tips)
  | consistency (consistency : Consistency)
  | flags (flags : List Bool)
  | hashes (hashes : List Hash)
  | amounts (amounts : List Nat)
  | trytes (trytes : List String)
  | done
deriving DecidableEq

namespace Request

/-- The operation that a request is for. -/
def operation : Request → Operation
  | selectTips _ => .selectTips
  | checkConsistency _ => .checkConsistency
  | getInclusionStates _ => .getInclusionStates
  | findTransactions _ => .findTransactions
  | getBalances _ _ => .getBalances
  | prepareTransfers .. => .prepareTransfers
  | attachToTangle .. => .attachToTangle
  | storeAndBroadcast _ => .storeAndBroadcast

/-- Whether the reply is of the kind that the request asks for. -/
def accepts : Request → Reply → Bool
  | selectTips _, .tips _ => true
  | checkConsistency _, .consistency _ => true
  | getInclusionStates _, .flags _ => true
  | findTransactions _, .hashes _ => true
  | getBalances _ _, .amounts _ => true
  | prepareTransfers .., .trytes _ => true
  | attachToTangle .., .trytes _ => true
  | storeAndBroadcast _, .done => true
  | _, _ => false

/-- Whether the request only reads, so that asking several nodes does no harm. -/
def isRead : Request → Bool
  | selectTips _ | checkConsistency _ | getInclusionStates _ | findTransactions _
  | getBalances _ _ => true
  | prepareTransfers .. | attachToTangle .. | storeAndBroadcast _ => false

end Request

/-- Why a call to a node failed. -/
inductive NodeError where
  /-- The node could not be reached, or what it sent is no document. -/
  | http (reason : String)
  /-- The node refused. -/
  | node (reason : String)
  /-- The node's answer is not what was asked for. -/
  | decode (reason : String)
  /-- The node took longer than it may. -/
  | timeout (limit : Duration)
deriving DecidableEq

/-- The wording of each cause. -/
def NodeError.message : NodeError → String
  | http reason => "HTTP request failed: " ++ reason
  | node reason => "node error: " ++ reason
  | decode reason => "decode error: " ++ reason
  | timeout limit => "timed out after " ++ limit.text

end Inclusion
