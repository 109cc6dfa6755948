import Inclusion.Hash
import Inclusion.Transaction.Layout
import Inclusion.Ternary.Curl

/-!
# Transactions and their trytes

A transaction is read from 2673 trytes and written back to them. Its hash is not among the trytes:
it is the Curl digest of all of them, and writing ignores it.

Reading and writing are not quite inverse. The text fields of a transaction in memory may be
shorter or longer than their place, and are filled up or cut when written.
-/

namespace Inclusion

/-- A transaction. The numbers are 64-bit integers, whatever their place can hold. -/
structure Transaction where
  hash : Hash
  signature : String
  address : Hash
  value : Int64
  obsoleteTag : String
  timestamp : Int64
  currentIndex : Int64
  lastIndex : Int64
  bundle : Hash
  trunk : Hash
  branch : Hash
  tag : String
  attachmentTimestamp : Int64
  attachmentTimestampLower : Int64
  attachmentTimestampUpper : Int64
  nonce : String
deriving DecidableEq

/-- The hash of a whole transaction. -/
def transactionHash (trytes : List Tryte) : Hash :=
  Hash.ofTrytes ((Trytes.ofTrits? (Curl.digest (Trytes.trits trytes))).getD [])

/-- The hash of a transaction given as text. -/
def readTransactionHash (text : String) : Except TrytesError Hash :=
  (Trytes.readExactly transactionLength text).map transactionHash

namespace Field

/-- The 64-bit integer that stands in a field. -/
def readInt (field : Field) (trytes : List Tryte) : Except TrytesError Int64 :=
  let number := Trytes.value (field.slice trytes)
  if Int64.minValue.toInt ≤ number ∧ number ≤ Int64.maxValue.toInt then .ok (Int64.ofInt number)
  else .error (.fieldRange field.first field.last)

/-- The hash that stands in a field. -/
def readHash (field : Field) (trytes : List Tryte) : Hash :=
  Hash.ofTrytes (field.slice trytes)

/-- The letters that stand in a field. -/
def readText (field : Field) (trytes : List Tryte) : String :=
  Trytes.text (field.slice trytes)

/-- The letters of a 64-bit integer in a field. -/
def writeInt (field : Field) (number : Int64) : Except TrytesError (List Char) :=
  match Trytes.ofInt? number.toInt field.width with
  | some trytes => .ok (Trytes.letters trytes)
  | none => .error (.overflow number.toInt)

/-- The characters of a text in a field; they need not be letters. -/
def writeText (field : Field) (text : String) : List Char :=
  Trytes.padLetters field.width text.toList

end Field

namespace Transaction

/-- A transaction without regard to its hash, from all of its trytes. -/
def ofTrytes (hash : Hash) (trytes : List Tryte) : Except TrytesError Transaction := do
  let value ← Field.value.readInt trytes
  let timestamp ← Field.timestamp.readInt trytes
  let currentIndex ← Field.currentIndex.readInt trytes
  let lastIndex ← Field.lastIndex.readInt trytes
  let attachmentTimestamp ← Field.attachmentTimestamp.readInt trytes
  let attachmentTimestampLower ← Field.attachmentTimestampLower.readInt trytes
  let attachmentTimestampUpper ← Field.attachmentTimestampUpper.readInt trytes
  return {
    hash
    signature := Field.signature.readText trytes
    address := Field.address.readHash trytes
    value
    obsoleteTag := Field.obsoleteTag.readText trytes
    timestamp
    currentIndex
    lastIndex
    bundle := Field.bundle.readHash trytes
    trunk := Field.trunk.readHash trytes
    branch := Field.branch.readHash trytes
    tag := Field.tag.readText trytes
    attachmentTimestamp
    attachmentTimestampLower
    attachmentTimestampUpper
    nonce := Field.nonce.readText trytes }

/-- The transaction that a text writes. -/
def decode (text : String) : Except TrytesError Transaction := do
  let trytes ← Trytes.readExactly transactionLength text
  ofTrytes (transactionHash trytes) trytes

/-- The characters of a transaction before they are checked: the fields in order. The first number
that does not fit decides. -/
def letters (transaction : Transaction) : Except TrytesError (List Char) := do
  let value ← Field.value.writeInt transaction.value
  let timestamp ← Field.timestamp.writeInt transaction.timestamp
  let currentIndex ← Field.currentIndex.writeInt transaction.currentIndex
  let lastIndex ← Field.lastIndex.writeInt transaction.lastIndex
  let attachmentTimestamp ← Field.attachmentTimestamp.writeInt transaction.attachmentTimestamp
  let attachmentTimestampLower ←
    Field.attachmentTimestampLower.writeInt transaction.attachmentTimestampLower
  let attachmentTimestampUpper ←
    Field.attachmentTimestampUpper.writeInt transaction.attachmentTimestampUpper
  return Field.signature.writeText transaction.signature
    ++ Trytes.letters transaction.address.trytes
    ++ value
    ++ Field.obsoleteTag.writeText transaction.obsoleteTag
    ++ timestamp ++ currentIndex ++ lastIndex
    ++ Trytes.letters transaction.bundle.trytes
    ++ Trytes.letters transaction.trunk.trytes
    ++ Trytes.letters transaction.branch.trytes
    ++ Field.tag.writeText transaction.tag
    ++ attachmentTimestamp ++ attachmentTimestampLower ++ attachmentTimestampUpper
    ++ Field.nonce.writeText transaction.nonce

/-- The written form of a transaction. Its text fields may spoil it, so the whole is read back. -/
def encode (transaction : Transaction) : Except TrytesError String := do
  let text := String.ofList (← transaction.letters)
  let _ ← Trytes.readExactly transactionLength text
  return text

/-- The tail of a bundle is its transaction of index zero. -/
def isTail (transaction : Transaction) : Bool :=
  transaction.currentIndex = 0

end Transaction

end Inclusion
