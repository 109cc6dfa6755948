import Inclusion.Ternary.Tryte

/-!
# The layout of a transaction

A transaction is 2673 trytes. Its fields follow one another without gaps, and this module is the
only place that knows where each begins.
-/

namespace Inclusion

/-- A stretch of a transaction: the places from `first` up to, but without, `last`. -/
structure Field where
  first : Nat
  last : Nat
deriving DecidableEq, Repr

namespace Field

/-- The number of trytes of a field. -/
def width (field : Field) : Nat :=
  field.last - field.first

/-- The trytes of a field. -/
def slice (field : Field) (trytes : List Tryte) : List Tryte :=
  (trytes.drop field.first).take field.width

def signature : Field := ⟨0, 2187⟩
def address : Field := ⟨2187, 2268⟩
def value : Field := ⟨2268, 2295⟩
def obsoleteTag : Field := ⟨2295, 2322⟩
def timestamp : Field := ⟨2322, 2331⟩
def currentIndex : Field := ⟨2331, 2340⟩
def lastIndex : Field := ⟨2340, 2349⟩
def bundle : Field := ⟨2349, 2430⟩
def trunk : Field := ⟨2430, 2511⟩
def branch : Field := ⟨2511, 2592⟩
def tag : Field := ⟨2592, 2619⟩
def attachmentTimestamp : Field := ⟨2619, 2628⟩
def attachmentTimestampLower : Field := ⟨2628, 2637⟩
def attachmentTimestampUpper : Field := ⟨2637, 2646⟩
def nonce : Field := ⟨2646, 2673⟩

/-- All fields, in the order in which they stand. -/
def all : List Field :=
  [signature, address, value, obsoleteTag, timestamp, currentIndex, lastIndex, bundle, trunk,
    branch, tag, attachmentTimestamp, attachmentTimestampLower, attachmentTimestampUpper, nonce]

end Field

/-- The number of trytes of a transaction. -/
def transactionLength : Nat := 2673

/-- The number of trytes of a tag. -/
def tagLength : Nat := 27

/-- The fields fill the transaction. -/
theorem Field.sum_width : (Field.all.map Field.width).foldr (· + ·) 0 = transactionLength := by
  decide

end Inclusion
