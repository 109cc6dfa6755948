import Inclusion.Json.Syntax

/-!
# Reading JSON documents

The grammar of RFC 8259, one function for each of its rules, from a list of characters to what is
read and the characters after it. The readers of nested values recurse on a bound for the nesting
and the number of items left, for which the number of characters suffices.
-/

namespace Inclusion.Json.Parser

/-- Whether a character may stand between the parts of a document. -/
def isSpace (character : Char) : Bool :=
  character = ' ' || character = '\n' || character = '\t' || character = '\r'

/-- What follows the spaces. -/
def skipSpaces (text : List Char) : List Char :=
  text.dropWhile isSpace

/-- The value of a decimal digit. -/
def digit? (character : Char) : Option Nat :=
  if '0' ≤ character ∧ character ≤ '9' then some (character.toNat - 48) else none

/-- The value of a digit in base sixteen, in either case. -/
def hexDigit? (character : Char) : Option Nat :=
  if '0' ≤ character ∧ character ≤ '9' then some (character.toNat - 48)
  else if 'a' ≤ character ∧ character ≤ 'f' then some (character.toNat - 87)
  else if 'A' ≤ character ∧ character ≤ 'F' then some (character.toNat - 55)
  else none

/-- The number of four digits in base sixteen. -/
def hexNumber? (first second third fourth : Char) : Option Nat := do
  return 4096 * (← hexDigit? first) + 256 * (← hexDigit? second) + 16 * (← hexDigit? third)
    + (← hexDigit? fourth)

/-- Digits appended to a number: the number, how many there were, and what follows. -/
def digitsAfter (number count : Nat) : List Char → Nat × Nat × List Char
  | [] => (number, count, [])
  | character :: rest =>
    match digit? character with
    | some digit => digitsAfter (10 * number + digit) (count + 1) rest
    | none => (number, count, character :: rest)

/-- What follows the exponent of a number, if there is one. -/
def afterExponent? : List Char → Option (List Char)
  | character :: rest =>
    if character = 'e' || character = 'E' then
      let unsigned := match rest with
        | '+' :: more => more
        | '-' :: more => more
        | more => more
      let (_, count, after) := digitsAfter 0 0 unsigned
      if count = 0 then none else some after
    else some (character :: rest)
  | [] => some []

/-- What follows the fraction of a number, if there is one. -/
def afterFraction? : List Char → Option (List Char)
  | '.' :: rest =>
    let (_, count, after) := digitsAfter 0 0 rest
    if count = 0 then none else some after
  | rest => some rest

/-- A number without its sign: the number before its point, whether that is all of it, and what
follows. A zero before the point stands alone. -/
def unsigned? (text : List Char) : Option (Nat × Bool × List Char) := do
  let (whole, count, afterWhole) := digitsAfter 0 0 text
  if count = 0 || (count ≠ 1 && text.head? = some '0') then none
  else
    let after ← (afterFraction? afterWhole).bind afterExponent?
    return (whole, after.length = afterWhole.length, after)

/-- A number. -/
def number? (text : List Char) : Option (Literal × List Char) := do
  let (negative, unsigned) := match text with
    | '-' :: rest => (true, rest)
    | rest => (false, rest)
  let (whole, plain, after) ← unsigned? unsigned
  let integer : Option Int :=
    if !plain || (negative && whole = 0) then none
    else some (if negative then -(whole : Int) else whole)
  return (⟨text.take (text.length - after.length), integer⟩, after)

/-- The character of an escape of one letter. -/
def escaped? (letter : Char) : Option Char :=
  if letter = '"' || letter = '\\' || letter = '/' then some letter
  else if letter = 'b' then some '\x08'
  else if letter = 'f' then some '\x0c'
  else if letter = 'n' then some '\n'
  else if letter = 'r' then some '\r'
  else if letter = 't' then some '\t'
  else none

/-- What has been read of a text: its characters in reverse, whether they are a text at all, and the
first half of a surrogate pair that is still to be completed. -/
structure TextSoFar where
  reversed : List Char
  sound : Bool
  half : Option Nat

namespace TextSoFar

/-- A character after what has been read; a half pair before it is never completed. -/
def push (done : TextSoFar) (character : Char) : TextSoFar :=
  ⟨character :: done.reversed, done.sound && done.half.isNone, none⟩

/-- A code unit after what has been read. -/
def pushUnit (done : TextSoFar) (unit : Nat) : TextSoFar :=
  if 0xDC00 ≤ unit ∧ unit ≤ 0xDFFF then
    match done.half with
    | some half =>
      ⟨Char.ofNat (0x10000 + 0x400 * (half - 0xD800) + (unit - 0xDC00)) :: done.reversed,
        done.sound, none⟩
    | none => ⟨done.reversed, false, none⟩
  else if 0xD800 ≤ unit ∧ unit ≤ 0xDBFF then
    ⟨done.reversed, done.sound && done.half.isNone, some unit⟩
  else done.push (Char.ofNat unit)

/-- The text, once its closing quotation mark is read. -/
def finish (done : TextSoFar) : Option String :=
  if done.sound && done.half.isNone then some (String.ofList done.reversed.reverse) else none

end TextSoFar

/-- A text after its opening quotation mark. -/
def textAfter? (done : TextSoFar) : List Char → Option (Option String × List Char)
  | [] => none
  | '"' :: rest => some (done.finish, rest)
  | '\\' :: 'u' :: first :: second :: third :: fourth :: rest =>
    match hexNumber? first second third fourth with
    | some unit => textAfter? (done.pushUnit unit) rest
    | none => none
  | '\\' :: letter :: rest =>
    match escaped? letter with
    | some character => textAfter? (done.push character) rest
    | none => none
  | character :: rest =>
    if character.toNat < 0x20 || character = '\\' then none
    else textAfter? (done.push character) rest

/-- What follows the given word. -/
def after? : List Char → List Char → Option (List Char)
  | [], characters => some characters
  | _ :: _, [] => none
  | letter :: word, character :: rest => if letter = character then after? word rest else none

mutual

/-- A value, after any spaces. -/
def value? : Nat → List Char → Option (Syntax × List Char)
  | 0, _ => none
  | bound + 1, characters =>
    match skipSpaces characters with
    | '\x7b' :: rest =>
      match skipSpaces rest with
      | '\x7d' :: after => some (.object [], after)
      | _ => members? bound [] rest
    | '[' :: rest =>
      match skipSpaces rest with
      | ']' :: after => some (.array [], after)
      | _ => items? bound [] rest
    | '"' :: rest =>
      (textAfter? ⟨[], true, none⟩ rest).map fun (value, after) => (.text value, after)
    | 't' :: rest => (after? ['r', 'u', 'e'] rest).map fun after => (.bool true, after)
    | 'f' :: rest => (after? ['a', 'l', 's', 'e'] rest).map fun after => (.bool false, after)
    | 'n' :: rest => (after? ['u', 'l', 'l'] rest).map fun after => (.null, after)
    | rest => (number? rest).map fun (literal, after) => (.number literal, after)

/-- The items of an array up to its closing bracket; those before are held in reverse. -/
def items? : Nat → List Syntax → List Char → Option (Syntax × List Char)
  | 0, _, _ => none
  | bound + 1, done, characters =>
    match value? bound characters with
    | none => none
    | some (item, rest) =>
      match skipSpaces rest with
      | ',' :: more => items? bound (item :: done) more
      | ']' :: after => some (.array (item :: done).reverse, after)
      | _ => none

/-- The members of an object up to its closing bracket; those before are held in reverse. -/
def members? : Nat → List (Option String × Syntax) → List Char → Option (Syntax × List Char)
  | 0, _, _ => none
  | bound + 1, done, characters =>
    match skipSpaces characters with
    | '"' :: rest =>
      match textAfter? ⟨[], true, none⟩ rest with
      | none => none
      | some (name, afterName) =>
        match skipSpaces afterName with
        | ':' :: rest =>
          match value? bound rest with
          | none => none
          | some (item, rest) =>
            match skipSpaces rest with
            | ',' :: more => members? bound ((name, item) :: done) more
            | '\x7d' :: after => some (.object ((name, item) :: done).reverse, after)
            | _ => none
        | _ => none
    | _ => none

end

end Parser

/-- The syntax of a document: one value, with nothing but spaces around it. -/
def Syntax.parse? (text : String) : Option Syntax :=
  let characters := text.toList
  match Parser.value? (characters.length + 1) characters with
  | some (tree, rest) => if (Parser.skipSpaces rest).isEmpty then some tree else none
  | none => none

/-- The value of a document. -/
def parse? (reals : RealReader) (text : String) : Option Json :=
  (Syntax.parse? text).bind (Syntax.value? reals)

end Inclusion.Json
