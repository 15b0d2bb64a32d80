import NameTag.Text.CharacterName.Africa
import NameTag.Text.CharacterName.Alias
import NameTag.Text.CharacterName.America
import NameTag.Text.CharacterName.Ancient
import NameTag.Text.CharacterName.Computed
import NameTag.Text.CharacterName.Cuneiform
import NameTag.Text.CharacterName.EastAsia
import NameTag.Text.CharacterName.EastEurope
import NameTag.Text.CharacterName.Greek
import NameTag.Text.CharacterName.Hieroglyph
import NameTag.Text.CharacterName.Latin
import NameTag.Text.CharacterName.Mathematics
import NameTag.Text.CharacterName.MiddleEast
import NameTag.Text.CharacterName.Notation
import NameTag.Text.CharacterName.Pictograph
import NameTag.Text.CharacterName.Punctuation
import NameTag.Text.CharacterName.SouthAsia
import NameTag.Text.CharacterName.SouthEastAsia
import NameTag.Text.CharacterName.Symbol

/-!
# Characters by name

The code point of a character by its name in Unicode 14. Case does not matter, but in computed names
it does. The tables hold all names that are not computed.
-/

namespace NameTag

namespace CharacterName

def blocks : List Block :=
  latinBlocks ++ greekBlocks ++ eastEuropeBlocks ++ middleEastBlocks ++ southAsiaBlocks
    ++ southEastAsiaBlocks ++ eastAsiaBlocks ++ africaBlocks ++ americaBlocks ++ ancientBlocks
    ++ cuneiformBlocks ++ hieroglyphBlocks ++ punctuationBlocks ++ symbolBlocks
    ++ mathematicsBlocks ++ notationBlocks ++ pictographBlocks

def alias? (name : Text) : Option Nat :=
  (aliases.find? fun (_, other) => other.toList == name).map (·.1)

end CharacterName

open CharacterName in
/-- The code point of the character with a name. -/
def characterNamed? (name : Text) : Option Nat :=
  let upper := name.map Char.toUpper
  (unified? name).or <| (syllable? name).or <| (numbered? upper).or <| (alias? upper).or <|
    blocks.findSome? (·.find? upper)

end NameTag
