import NameTag.Text.Blank

/-!
# Trimming

`Text.trim` strips a text and cuts it to a limit. A marker shorter than the limit replaces the end of
a cut text, which then fills the limit; otherwise the cut text loses the blanks at its new end.
-/

namespace NameTag.Text

/-- The first `n` characters of a text that is longer, with the marker at their end if it fits. -/
def shorten (marker : Option Text) (n : Nat) (t : Text) : Text :=
  match marker with
  | some m => if m.length < n then t.take (n - m.length) ++ m else stripRight (t.take n)
  | none => stripRight (t.take n)

/-- No limit and a negative one leave the length alone. -/
def trim (t : Text) (limit : Option Int) (marker : Option Text) : Text :=
  let s := strip t
  match limit with
  | some n => if 0 ≤ n ∧ n < s.length then shorten marker n.toNat s else s
  | none => s

end NameTag.Text
