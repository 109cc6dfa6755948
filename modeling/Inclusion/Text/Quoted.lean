import Inclusion.Text.Graphic
import Inclusion.Text.GraphemeExtend
import Inclusion.Text.Ignorable

/-!
# A character between quotation marks

Messages name a character between single quotation marks. The mark itself, the backslash and the
four controls with a letter of their own are written with a backslash; any other character that
would not show as itself is written by its code point.
-/

namespace Inclusion.Text

/-- The single quotation mark. -/
def mark : Char := '\x27'

/-- A number in base sixteen, in small letters and without leading zeros. -/
def hexadecimal (number : Nat) : List Char :=
  Nat.toDigits 16 number

/-- Whether a character shows as itself between quotation marks: it has a shape, leaves a trace, and
is not drawn on the mark before it. -/
def showsInQuotes (character : Char) : Bool :=
  isGraphic character && !extendsGrapheme character && !isIgnorable character

/-- How a character stands between single quotation marks. A double quotation mark needs no escape
there. -/
def escapeInQuotes (character : Char) : List Char :=
  if character = '\x00' then ['\\', '0']
  else if character = '\t' then ['\\', 't']
  else if character = '\r' then ['\\', 'r']
  else if character = '\n' then ['\\', 'n']
  else if character = '\\' then ['\\', '\\']
  else if character = mark then ['\\', mark]
  else if showsInQuotes character then [character]
  else ['\\', 'u', '\x7b'] ++ hexadecimal character.toNat ++ ['\x7d']

/-- The character between single quotation marks. -/
def quote (character : Char) : String :=
  String.ofList ([mark] ++ escapeInQuotes character ++ [mark])

end Inclusion.Text
