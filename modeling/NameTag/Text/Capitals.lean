import NameTag.Text.Case
import NameTag.Text.Blank
import NameTag.Text.Alphanumeric
import NameTag.Text.Digit

/-!
# Case modes

A text is put into lower case throughout, or with its first character capitalised, or with the first
character of each word capitalised. A word starts at the beginning and after a blank, `_` or `-`.
-/

namespace NameTag

inductive CaseMode
  | lower
  | first
  | words
  deriving DecidableEq, Repr

/-- A word character that is neither a decimal digit nor the underscore. Numerals other than decimal
digits are among these; they have no capitals. -/
def takesCapital (c : Char) : Bool :=
  isWordChar c && !isDecimalDigit c && c != '_'

/-- After these a new word starts. -/
def endsWord (c : Char) : Bool :=
  isBlank c || c == '_' || c == '-'

namespace Text

def capitalizeFirst : Text → Text
  | [] => []
  | c :: rest => upperChar c ++ rest

/-- Capitalises the first letter of each word; `fresh` says that a word may start right here. -/
def capitalizeWords (fresh : Bool) : Text → Text
  | [] => []
  | c :: rest =>
    (if fresh && takesCapital c then upperChar c else [c]) ++ capitalizeWords (endsWord c) rest

def inCase (mode : CaseMode) (t : Text) : Text :=
  match mode with
  | .lower => lower t
  | .first => capitalizeFirst (lower t)
  | .words => capitalizeWords true (lower t)

end Text

end NameTag
