import Inclusion.Ternary.Tryte
import Inclusion.Ternary.Error

/-!
# Reading and padding trytes

A text is read as trytes by checking its length, where one is asked for, and then every character.
Lengths and positions count bytes of UTF-8, so a text with a character outside the alphabet can have
the right length and still be refused at that character.

Between texts and digits there is a conversion in each direction, and a number is filled up to the
width of the field it is written in.
-/

namespace Inclusion

namespace Trytes

/-- The bytes that a list of characters takes in UTF-8. -/
def byteLength (characters : List Char) : Nat :=
  (characters.map Char.utf8Size).foldr (· + ·) 0

/-- The trytes of a list of characters that stands after the given number of bytes. -/
def readLetters (position : Nat) : List Char → Except TrytesError (List Tryte)
  | [] => .ok []
  | character :: rest =>
    match Tryte.ofLetter? character with
    | none => .error (.invalidTryte position character)
    | some tryte => (readLetters (position + character.utf8Size) rest).map (tryte :: ·)

/-- The trytes of a text of any length. -/
def read (text : String) : Except TrytesError (List Tryte) :=
  readLetters 0 text.toList

/-- The trytes of a text that must take exactly the given number of bytes; the length is judged
first. -/
def readExactly (expected : Nat) (text : String) : Except TrytesError (List Tryte) :=
  if byteLength text.toList = expected then read text
  else .error (.length expected (byteLength text.toList))

/-- Fills a text up with the zero letter to the given length, after cutting it to as many
characters. The cut counts characters and the filling counts bytes, so a text with a character of
several bytes may come out longer. -/
def padLetters (length : Nat) (characters : List Char) : List Char :=
  let kept := characters.take length
  kept ++ List.replicate (length - byteLength kept) '9'

/-- `padLetters` on a text. -/
def pad (text : String) (length : Nat) : String :=
  String.ofList (padLetters length text.toList)

/-- The digits of a text of trytes. -/
def readTrits (text : String) : Except TrytesError (List Trit) :=
  (read text).map trits

end Trytes

namespace Trits

/-- The text of trytes with the given digits, if their number is a multiple of three. -/
def text? (digits : List Trit) : Option String :=
  (Trytes.ofTrits? digits).map Trytes.text

/-- A number in exactly the given number of places: its digits, filled up with zeros. -/
def write (number : Int) (width : Nat) : Except TrytesError (List Trit) :=
  let digits := shortest number
  if width < digits.length then .error (.overflow number)
  else .ok (digits ++ List.replicate (width - digits.length) .zero)

end Trits

end Inclusion
