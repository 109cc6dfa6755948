import Inclusion.Ternary.Reading
import Inclusion.Json.Syntax

/-!
# Hashes

A hash is a list of exactly 81 trytes; the length is part of the type, so no hash needs to be
checked after it is made. Transaction hashes, bundle hashes and addresses are all hashes.
-/

namespace Inclusion

/-- The number of trytes of a hash. -/
def hashLength : Nat := 81

/-- A transaction hash, a bundle hash or an address. -/
structure Hash where
  trytes : List Tryte
  length_eq : trytes.length = hashLength
deriving DecidableEq

namespace Hash

/-- The hash of the first 81 trytes of a list, filled up with zero trytes if there are fewer. -/
def ofTrytes (trytes : List Tryte) : Hash where
  trytes := (trytes ++ List.replicate hashLength Tryte.nine).take hashLength
  length_eq := by simp

/-- The hash of zero trytes: the null address and the genesis reference. -/
def null : Hash where
  trytes := List.replicate hashLength Tryte.nine
  length_eq := List.length_replicate

/-- The written form. -/
def text (hash : Hash) : String :=
  Trytes.text hash.trytes

/-- The first twelve letters, for diagnostics. -/
def abbreviation (hash : Hash) : String :=
  "Hash(" ++ Trytes.text (hash.trytes.take 12) ++ "..)"

/-- The hash that a text writes. -/
def read (text : String) : Except TrytesError Hash :=
  match Trytes.readExactly hashLength text with
  | .error error => .error error
  | .ok trytes => .ok (ofTrytes trytes)

/-- The hash that a text of a document writes. -/
def readSyntax? : Json.Syntax → Option Hash
  | .text (some text) => (read text).toOption
  | _ => none

/-- The order of hashes is that of their letters, in which the digit nine comes first. -/
def le (left right : Hash) : Bool :=
  Trytes.le left.trytes right.trytes

/-- A hash that is all of a list of the right length. -/
theorem ofTrytes_trytes {trytes : List Tryte} (length : trytes.length = hashLength) :
    (ofTrytes trytes).trytes = trytes := by
  simp [ofTrytes, ← length]

end Hash

end Inclusion
