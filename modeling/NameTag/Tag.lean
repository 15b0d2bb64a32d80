import NameTag.Field
import NameTag.Value.Written
import NameTag.Text.Blank

/-!
# Tags

A tag is a record: values under names, in the order in which the names were first set. The names of
the fields are those that operations look at; other names stay as they are.
-/

namespace NameTag

structure Tag where
  entries : List (Text × Value)
  deriving Repr

namespace Tag

def get? (t : Tag) (key : Text) : Option Value :=
  t.entries.lookup key

/-- Puts a value under a name, in place if the name is there. -/
def setEntry (key : Text) (value : Value) : List (Text × Value) → List (Text × Value)
  | [] => [(key, value)]
  | (k, v) :: rest => if k = key then (k, value) :: rest else (k, v) :: setEntry key value rest

def set (t : Tag) (key : Text) (value : Value) : Tag :=
  ⟨setEntry key value t.entries⟩

def erase (t : Tag) (key : Text) : Tag :=
  ⟨t.entries.filter (·.1 != key)⟩

/-- Sets every entry of the list in turn. -/
def update (t : Tag) (entries : List (Text × Value)) : Tag :=
  entries.foldl (fun t e => t.set e.1 e.2) t

/-- The tag whose fields are all empty texts. -/
def empty : Tag :=
  ⟨Field.all.map fun f => (f.name, .text [])⟩

/-- The value of a field; nothing if it is not there. -/
def value (t : Tag) (f : Field) : Value :=
  (t.get? f.name).getD .null

def setText (t : Tag) (f : Field) (stored : Text) : Tag :=
  t.set f.name (.text stored)

/-- The text of a field, stripped; empty if there is no value. -/
def fieldText (t : Tag) (f : Field) : Text :=
  match t.value f with
  | .null => []
  | v => Text.strip v.shown

/-- The fields with their values on one line; a field without a value only on demand. -/
def summary (t : Tag) (showEmpty : Bool) : Text :=
  let parts := Field.all.filterMap fun f =>
    let v := t.value f
    if showEmpty || v.isTrue then
      some (f.name ++ ": ".toList ++ if v.isTrue then v.shown else [])
    else none
  Text.join " / ".toList parts

/-! ## Lookups after a change -/

theorem get?_set (t : Tag) (key k : Text) (v : Value) :
    (t.set key v).get? k = if k = key then some v else t.get? k := by
  obtain ⟨entries⟩ := t
  simp only [get?, set]
  induction entries with
  | nil => by_cases h : k = key <;> simp [setEntry, h]
  | cons e rest ih =>
    obtain ⟨a, b⟩ := e
    by_cases ha : a = key
    · subst ha
      by_cases h : k = a
      · subst h; simp [setEntry]
      · simp [setEntry, h, List.lookup_cons, beq_eq_false_iff_ne.2 h]
    · by_cases h : k = a
      · subst h; simp [setEntry, ha]
      · simp [setEntry, ha, List.lookup_cons, beq_eq_false_iff_ne.2 h, ih]

end Tag

end NameTag
