/-!
# Ranges of code points

A character property is a table of closed ranges of code points. The tables of this library are
data of the Unicode standard; this module only says what it means to be in one.
-/

namespace Inclusion.Text

/-- A table of closed ranges of code points, in ascending order. -/
abbrev Ranges := List (Nat × Nat)

/-- Whether one of the ranges holds the character's code point. -/
def Ranges.holds (ranges : Ranges) (character : Char) : Bool :=
  ranges.any fun range => range.1 ≤ character.toNat && character.toNat ≤ range.2

end Inclusion.Text
