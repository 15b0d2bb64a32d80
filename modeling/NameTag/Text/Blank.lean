import NameTag.Text.Ranges

/-!
# Blank characters

The white space of all scripts, the four information separators and the next-line control; neither
the zero-width space nor the byte order mark. `Text.strip` takes blanks off both ends.
-/

namespace NameTag

def blankRanges : Ranges :=
  [(0x9, 0xd), (0x1c, 0x20), (0x85, 0x85), (0xa0, 0xa0), (0x1680, 0x1680), (0x2000, 0x200a),
    (0x2028, 0x2029), (0x202f, 0x202f), (0x205f, 0x205f), (0x3000, 0x3000)]

def isBlank (c : Char) : Bool :=
  blankRanges.has c.toNat

namespace Text

def stripLeft (t : Text) : Text :=
  t.dropWhile isBlank

def stripRight (t : Text) : Text :=
  (t.reverse.dropWhile isBlank).reverse

/-- The text without blanks at its ends. -/
def strip (t : Text) : Text :=
  stripRight (stripLeft t)

end Text

end NameTag
