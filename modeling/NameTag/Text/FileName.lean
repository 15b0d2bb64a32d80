import NameTag.Text.Basic

/-!
# File names

The stem of a path: its last part without the extension. Dots that a name starts with belong to no
extension.
-/

namespace NameTag.Text

/-- What follows the last slash. -/
def baseName (path : Text) : Text :=
  (path.reverse.takeWhile (· != '/')).reverse

/-- The name before its last dot, unless nothing but dots stands there. -/
def stem (path : Text) : Text :=
  let name := baseName path
  match name.reverse.dropWhile (· != '.') with
  | _ :: before => if before.all (· == '.') then name else before.reverse
  | [] => name

end NameTag.Text
