import Inclusion.Text.Ranges

/-!
# White space, words and lines

White space is the Unicode property White_Space. It splits a line into words. Lines themselves end
only at a line feed, with or without a carriage return before it: a carriage return alone, or any
other line separator of Unicode, is white space within a line.
-/

namespace Inclusion.Text

/-- The code points with the property White_Space. -/
def blankRanges : Ranges :=
  [(0x9, 0xD), (0x20, 0x20), (0x85, 0x85), (0xA0, 0xA0), (0x1680, 0x1680), (0x2000, 0x200A),
    (0x2028, 0x2029), (0x202F, 0x202F), (0x205F, 0x205F), (0x3000, 0x3000)]

/-- Whether the character has the property White_Space. -/
def isBlank (character : Char) : Bool :=
  blankRanges.holds character

/-- The words of a text that goes on after the characters of `word`, which are held in reverse. -/
def wordsAfter (word : List Char) : List Char → List String
  | [] => if word.isEmpty then [] else [String.ofList word.reverse]
  | character :: rest =>
    if isBlank character then
      if word.isEmpty then wordsAfter [] rest
      else String.ofList word.reverse :: wordsAfter [] rest
    else wordsAfter (character :: word) rest

/-- The maximal runs of characters other than white space, in order. -/
def words (text : String) : List String :=
  wordsAfter [] text.toList

/-- A finished line, whose characters are held in reverse, without the carriage return that belongs
to its end. -/
def finishLine : List Char → String
  | '\r' :: line => String.ofList line.reverse
  | line => String.ofList line.reverse

/-- The lines of a text that goes on after the characters of `line`, which are held in reverse. What
follows the last line feed is a line only if it is not empty, and keeps a carriage return at its
end. -/
def linesAfter (line : List Char) : List Char → List String
  | [] => if line.isEmpty then [] else [String.ofList line.reverse]
  | '\n' :: rest => finishLine line :: linesAfter [] rest
  | character :: rest => linesAfter (character :: line) rest

/-- The lines of a text. -/
def lines (text : String) : List String :=
  linesAfter [] text.toList

end Inclusion.Text
