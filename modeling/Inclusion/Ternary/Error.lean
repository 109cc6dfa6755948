import Inclusion.Text.Quoted

/-!
# What can be wrong with trytes

One cause per constructor; the wording is in `TrytesError.message` and nowhere else.
-/

namespace Inclusion

/-- Why a text is not the trytes it should be, or a value has no trytes. -/
inductive TrytesError where
  /-- The first character outside the alphabet, and the bytes before it. -/
  | invalidTryte (position : Nat) (character : Char)
  /-- A text of the wrong length in bytes. -/
  | length (expected actual : Nat)
  /-- A number too large for its field. -/
  | overflow (value : Int)
  /-- A field holds a number outside the 64-bit integers. -/
  | fieldRange (first last : Nat)
  /-- A conversion between trytes and trits failed. -/
  | codec (reason : String)
  /-- No transaction of the bundle has index zero. -/
  | noTail
deriving DecidableEq, Repr

/-- The wording of each cause. -/
def TrytesError.message : TrytesError → String
  | invalidTryte position character =>
    "invalid tryte " ++ Text.quote character ++ " at position " ++ toString position
  | length expected actual =>
    "expected " ++ toString expected ++ " trytes, got " ++ toString actual
  | overflow value => "value " ++ toString value ++ " does not fit the field"
  | fieldRange first last =>
    "numeric field at " ++ toString first ++ ".." ++ toString last ++ " is out of range"
  | codec reason => "ternary codec: " ++ reason
  | noTail => "bundle has no tail transaction"

end Inclusion
