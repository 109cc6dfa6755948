import Inclusion.Json.Basic

/-!
# JSON documents

A document is read in two stages. Its syntax is the tree that the grammar of RFC 8259 gives to the
text, with every number as it is written and every member of an object where it stands. A value is
more than syntax: its numbers are within the range of their reader, its texts are texts, and its
nesting is bounded. Whoever skips a part of a document, as a reader of settings skips members it
does not know, asks only for its syntax.
-/

namespace Inclusion.Json

/-- The syntax tree of a document. A text is missing where its escapes name half of a surrogate
pair. -/
inductive Syntax where
  | null
  | bool (value : Bool)
  | number (literal : Literal)
  | text (value : Option String)
  | array (items : List Syntax)
  | object (members : List (Option String × Syntax))
deriving Inhabited

/-- The deepest nesting of arrays and objects that a value may have. -/
def deepest : Nat := 127

namespace Syntax

variable (reals : RealReader)

mutual

/-- The value of a syntax tree that may nest arrays and objects to the given depth. -/
def valueWithin? (depth : Nat) : Syntax → Option Json
  | .null => some .null
  | .bool value => some (.bool value)
  | .number literal => (Number.ofLiteral? reals literal).map .number
  | .text value => value.map .text
  | .array items =>
    if depth = 0 then none else (valuesWithin? (depth - 1) items).map .array
  | .object members =>
    if depth = 0 then none else (membersWithin? (depth - 1) members).map record

/-- The values of the items of an array. -/
def valuesWithin? (depth : Nat) : List Syntax → Option (List Json)
  | [] => some []
  | item :: rest =>
    match valueWithin? depth item, valuesWithin? depth rest with
    | some value, some values => some (value :: values)
    | _, _ => none

/-- The members of an object as they stand. -/
def membersWithin? (depth : Nat) :
    List (Option String × Syntax) → Option (List (String × Json))
  | [] => some []
  | (name, item) :: rest =>
    match name, valueWithin? depth item, membersWithin? depth rest with
    | some name, some value, some values => some ((name, value) :: values)
    | _, _, _ => none

end

/-- The value that a syntax tree denotes. -/
def value? (tree : Syntax) : Option Json :=
  tree.valueWithin? reals deepest

end Syntax

end Inclusion.Json
