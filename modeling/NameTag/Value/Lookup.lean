import NameTag.Fault
import NameTag.Text.FileName

/-!
# Questions about values

Whether a value names a field and how long that field may be, the stem of a file name, and a list of
texts for display.
-/

namespace NameTag

/-- The texts with semicolons between them, or a word for none. -/
def Text.listing (items : List Text) : Text :=
  if items.isEmpty then "(none)".toList else Text.join "; ".toList items

namespace Value

def isFieldName : Value → Bool
  | .text t => (Field.ofName? t).isSome
  | _ => false

/-- The most characters of the field with this name. A list or record cannot be looked up at all. -/
def maxLength : Value → Except Fault (Option Nat)
  | .text t =>
    match Field.ofName? t with
    | some f => .ok f.maxLength
    | none => .error .unknownKey
  | .list _ | .record _ => .error .wrongType
  | _ => .error .unknownKey

def stem : Value → Except Fault Text
  | .text t => .ok (Text.stem t)
  | _ => .error .wrongType

def texts : List Value → Except Fault (List Text)
  | [] => .ok []
  | .text t :: rest => (texts rest).map (t :: ·)
  | _ :: _ => .error .wrongType

/-- The listing of a value's parts, which must be texts. A value that counts as false lists nothing. -/
def listing (items : Value) : Except Fault Text :=
  if !items.isTrue then .ok (Text.listing [])
  else
    match items with
    | .text t => .ok (Text.listing (t.map fun c => [c]))
    | .list vs => (texts vs).map Text.listing
    | .record entries => .ok (Text.listing (entries.map (·.1)))
    | _ => .error .wrongType

end Value

end NameTag
