import NameTag.Text.Basic

/-!
# Version
-/

namespace NameTag

/-- The version of the fields and their limits, as the schema states it. -/
def version : Text :=
  "0.40.0".toList

end NameTag
