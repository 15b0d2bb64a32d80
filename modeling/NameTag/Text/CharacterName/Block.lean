import NameTag.Text.Basic

/-!
# Blocks of character names
-/

namespace NameTag.CharacterName

/-- The names of neighbouring characters: how all of them begin, and how each goes on, between commas.
Nothing stands for a character without a name. -/
structure Block where
  first : Nat
  lead : String
  rests : String

namespace Block

/-- How the names go on, in order. -/
def entries (b : Block) : List Text :=
  (b.rests.splitOn ",").map fun rest => rest.toList.dropWhile Char.isWhitespace

/-- The code point of the character with a name. -/
def find? (b : Block) (name : Text) : Option Nat := do
  let rest ← Text.after? b.lead.toList name
  if rest.isEmpty then none else (b.entries.findIdx? (· == rest)).map (b.first + ·)

end Block

end NameTag.CharacterName
