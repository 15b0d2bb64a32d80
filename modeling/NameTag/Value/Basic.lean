import NameTag.Number.Binary64

/-!
# Values

The arguments of an operation may be of any type, and so may the entries of a tag: a value is
nothing, a truth value, a number, a text, a list or a record. Truth values count as the numbers 0
and 1, and numbers are compared by value whatever their type.
-/

namespace NameTag

inductive Value
  | null
  | flag (b : Bool)
  | int (n : Int)
  | real (x : Binary64)
  | text (t : Text)
  | list (items : List Value)
  | record (entries : List (Text × Value))
  deriving Repr

namespace Value

instance : Inhabited Value := ⟨.null⟩

/-- The number that a value counts as. -/
def number? : Value → Option Rat
  | .flag b => some (if b then 1 else 0)
  | .int n => some n
  | .real x => some x.toRat
  | _ => none

/-- The number that a value counts as, where a whole number is needed and none with a fraction part
will do, whatever its size. -/
def integer? : Value → Option Int
  | .flag b => some (if b then 1 else 0)
  | .int n => some n
  | _ => none

def equalsInt (v : Value) (n : Int) : Bool :=
  v.number? == some (n : Rat)

/-- Nothing, zero and whatever is empty count as false. -/
def isTrue : Value → Bool
  | .null => false
  | .flag b => b
  | .int n => n != 0
  | .real x => x.isNotANumber || x.mantissa != 0
  | .text t => !t.isEmpty
  | .list items => !items.isEmpty
  | .record entries => !entries.isEmpty

end Value

end NameTag
