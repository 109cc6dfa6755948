import Inclusion.Transaction.Codec

/-!
# The tail of a bundle

A bundle is a list of transactions in any order, and is known by its tail. The index alone is read
until the tail is met, so that no other transaction's hash is computed; for the same reason nothing
after the tail is looked at.
-/

namespace Inclusion

/-- The first transaction of index zero. What precedes it must be transactions, too. -/
def tailOf : List String → Except TrytesError Transaction
  | [] => .error .noTail
  | text :: rest => do
    let trytes ← Trytes.readExactly transactionLength text
    let index ← Field.currentIndex.readInt trytes
    if index = 0 then Transaction.decode text else tailOf rest

end Inclusion
