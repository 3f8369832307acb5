import WorkPackage.Text.Ranges
/-!
# Blanks

Blanks are the characters with the property White_Space.  Trimming removes them
from both ends of a text and leaves those between other characters alone.
-/

namespace WorkPackage.Text

/-- The code points with the property White_Space. -/
def blankRanges : Ranges :=
  [(0x9, 0xd), (0x20, 0x20), (0x85, 0x85), (0xa0, 0xa0), (0x1680, 0x1680),
    (0x2000, 0x200a), (0x2028, 0x2029), (0x202f, 0x202f), (0x205f, 0x205f),
    (0x3000, 0x3000)]

def isBlank (character : Char) : Bool :=
  blankRanges.covers character

/-- A text without the blanks before its first and behind its last other
character. -/
def trim (text : List Char) : List Char :=
  ((text.dropWhile isBlank).reverse.dropWhile isBlank).reverse

end WorkPackage.Text
