import Inclusion.Json.Quoted
import Inclusion.Json.Number

/-!
# JSON values

A value of JSON and its compact written form. The members of an object keep the order they are
given in; `Json.record` puts them into the order of their names, which is the order of every
object that is not written for its own layout.
-/

namespace Inclusion

/-- A JSON value. -/
inductive Json where
  | null
  | bool (value : Bool)
  | number (value : Json.Number)
  | text (value : String)
  | array (items : List Json)
  | object (members : List (String × Json))
deriving Inhabited

namespace Json

/-- An integer as a value. -/
def int (value : Int) : Json :=
  .number (.integer value)

/-- A natural number as a value. -/
def nat (value : Nat) : Json :=
  .number (.integer value)

/-- Puts a member into a list ordered by name; a member of the same name is replaced. -/
def insertMember (name : String) (value : Json) :
    List (String × Json) → List (String × Json)
  | [] => [(name, value)]
  | (other, present) :: rest =>
    if name < other then (name, value) :: (other, present) :: rest
    else if name = other then (name, value) :: rest
    else (other, present) :: insertMember name value rest

/-- The object with the given members in the order of their names; of members with one name the last
is kept. -/
def record (members : List (String × Json)) : Json :=
  .object (members.foldl (fun ordered member => insertMember member.1 member.2 ordered) [])

/-- The member of an object with the given name. -/
def member? (name : String) : Json → Option Json
  | .object members => members.lookup name
  | _ => none

/-- The text of a value that is one. -/
def text? : Json → Option String
  | .text value => some value
  | _ => none

/-- The truth value of a value that is one. -/
def bool? : Json → Option Bool
  | .bool value => some value
  | _ => none

/-- The items of a value that is an array. -/
def array? : Json → Option (List Json)
  | .array items => some items
  | _ => none

/-- The integer of a value that is one. -/
def int? : Json → Option Int
  | .number (.integer value) => some value
  | _ => none

mutual

/-- The compact written form of a value. -/
def letters : Json → List Char
  | .null => ['n', 'u', 'l', 'l']
  | .bool true => ['t', 'r', 'u', 'e']
  | .bool false => ['f', 'a', 'l', 's', 'e']
  | .number value => value.letters
  | .text value => quoteLetters value.toList
  | .array items => '[' :: (itemLetters items ++ [']'])
  | .object members => '\x7b' :: (memberLetters members ++ ['\x7d'])

/-- The items of an array with commas between them. -/
def itemLetters : List Json → List Char
  | [] => []
  | [item] => item.letters
  | item :: next :: rest => item.letters ++ ',' :: itemLetters (next :: rest)

/-- The members of an object with commas between them. -/
def memberLetters : List (String × Json) → List Char
  | [] => []
  | [(name, value)] => quoteLetters name.toList ++ ':' :: value.letters
  | (name, value) :: next :: rest =>
    quoteLetters name.toList ++ ':' :: (value.letters ++ ',' :: memberLetters (next :: rest))

end

/-- The compact written form of a value. -/
def compact (value : Json) : String :=
  String.ofList value.letters

end Json

end Inclusion
