import Inclusion.Text.Quoted

/-!
# Text between double quotation marks

The written form of a text in JSON. Only the quotation mark, the backslash and the controls below
the space are escaped; every other character stands for itself.
-/

namespace Inclusion.Json

/-- How a character stands between double quotation marks. -/
def escape (character : Char) : List Char :=
  if character = '"' then ['\\', '"']
  else if character = '\\' then ['\\', '\\']
  else if character = '\x08' then ['\\', 'b']
  else if character = '\x0c' then ['\\', 'f']
  else if character = '\n' then ['\\', 'n']
  else if character = '\r' then ['\\', 'r']
  else if character = '\t' then ['\\', 't']
  else if character.toNat < 0x20 then
    let digits := Text.hexadecimal character.toNat
    ['\\', 'u'] ++ List.replicate (4 - digits.length) '0' ++ digits
  else [character]

/-- The text between double quotation marks. -/
def quoteLetters (text : List Char) : List Char :=
  ['"'] ++ text.flatMap escape ++ ['"']

end Inclusion.Json
