/-!
# Numbers of a document

A document writes a number in decimal. Written without a point and without an exponent, and within
64 bits, it is an integer. What becomes of any other number depends on the arithmetic of its reader,
which may round as it likes. So whoever reads a document is given a reader of such numbers, of whom
nothing is assumed.
-/

namespace Inclusion.Json

/-- A number as a document writes it. -/
structure Literal where
  /-- All its letters. -/
  letters : List Char
  /-- The integer that the letters write, if there is neither a point nor an exponent among them.
  Minus zero is not an integer. -/
  integer? : Option Int
deriving DecidableEq, Repr

/-- A reader of numbers that are not kept as integers: from the letters in the document to the
letters in which the number is written again, or to `none` if the number is out of range. -/
abbrev RealReader := List Char → Option (List Char)

/-- The decimal digits of a number. -/
def digits (number : Nat) : List Char :=
  Nat.toDigits 10 number

/-- A number of a document. -/
inductive Number where
  | integer (value : Int)
  /-- Any other number, by the letters in which it is written. -/
  | real (letters : List Char)
deriving DecidableEq, Repr

namespace Number

/-- The integers kept as such: those of 64 bits, with or without a sign. -/
def isKept (value : Int) : Bool :=
  -Int.pow 2 63 ≤ value && value < Int.pow 2 64

/-- The number that a literal writes, if it is not out of range. -/
def ofLiteral? (reals : RealReader) (literal : Literal) : Option Number :=
  match literal.integer? with
  | some value => if isKept value then some (.integer value) else (reals literal.letters).map .real
  | none => (reals literal.letters).map .real

/-- The written form of a number. -/
def letters : Number → List Char
  | integer value => (if value < 0 then ['-'] else []) ++ digits value.natAbs
  | real letters => letters

end Number

end Inclusion.Json
