import Inclusion.Json.Syntax

/-!
# Reading settings from a document

A record of settings is written either as an object, whose members may come in any order, or as an
array of its fields in their order of declaration, cut short anywhere. In an object a field may be
given once; members of other names are skipped without being looked into, so only their syntax has
to be right. Whether a missing field has a default is for the record to say.
-/

namespace Inclusion.Config

/-- The fields of a record, in their order of declaration; a field that is not given is `none`. -/
abbrev Fields := List (Option Json.Syntax)

/-- The value given under a name, if it is given once; `none` if it is given twice. -/
def given? (name : String) (members : List (Option String × Json.Syntax)) :
    Option (Option Json.Syntax) :=
  match members.filter (fun member => member.1 = some name) with
  | [] => some none
  | [member] => some (some member.2)
  | _ => none

/-- The fields of a record with the given names. -/
def fields? (names : List String) : Json.Syntax → Option Fields
  | .object members =>
    if members.any fun member => member.1.isNone then none
    else names.mapM fun name => given? name members
  | .array items =>
    if names.length < items.length then none
    else some (items.map some ++ List.replicate (names.length - items.length) none)
  | _ => none

/-- The field at a place. -/
def Fields.at (fields : Fields) (place : Nat) : Option Json.Syntax :=
  (fields[place]?).join

/-- A field by its reader, or the default if it is not given. -/
def orDefault {α : Type} (read? : Json.Syntax → Option α) (fallback : α) :
    Option Json.Syntax → Option α
  | none => some fallback
  | some tree => read? tree

/-- A natural number below a bound. -/
def natural? (bound : Nat) : Json.Syntax → Option Nat
  | .number literal =>
    match literal.integer? with
    | some value => if 0 ≤ value ∧ value < bound then some value.toNat else none
    | none => none
  | _ => none

/-- A whole number of 64 bits. -/
def word64? (tree : Json.Syntax) : Option UInt64 :=
  (natural? (Nat.pow 2 64) tree).map UInt64.ofNat

/-- A whole number of 32 bits. -/
def word32? (tree : Json.Syntax) : Option UInt32 :=
  (natural? (Nat.pow 2 32) tree).map UInt32.ofNat

/-- A truth value. -/
def flag? : Json.Syntax → Option Bool
  | .bool value => some value
  | _ => none

/-- A text. -/
def text? : Json.Syntax → Option String
  | .text value => value
  | _ => none

/-- A text or nothing. -/
def optionalText? : Json.Syntax → Option (Option String)
  | .null => some none
  | tree => (text? tree).map some

/-- The records of a list. -/
def list? {α : Type} (read? : Json.Syntax → Option α) : Json.Syntax → Option (List α)
  | .array items => items.mapM read?
  | _ => none

end Inclusion.Config
