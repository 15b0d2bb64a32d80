import NameTag.Fault
import NameTag.Text.Trim
import NameTag.Text.Capitals

/-!
# Trimming and case of values

The same as `Text.trim` and `Text.inCase` where the text, the limit, the marker and the mode may be
values of any type. A marker that is no text matters only where something is cut.
-/

namespace NameTag

namespace Value

/-- Cuts a text that is longer than `n`. A list or record as marker counts by its size, and one that
would fit cannot be put at the end of a text. -/
def shortenBy (marker : Value) (n : Nat) (t : Text) : Except Fault Text :=
  match marker with
  | .null => .ok (Text.shorten none n t)
  | .text m => .ok (Text.shorten (some m) n t)
  | .list items => if items.length < n then .error .wrongType else .ok (Text.shorten none n t)
  | .record entries => if entries.length < n then .error .wrongType else .ok (Text.shorten none n t)
  | _ => .error .wrongType

/-- Strips a text and cuts it to a limit. -/
def trimTo (marker : Value) (limit : Option Nat) (t : Text) : Except Fault Text :=
  let s := Text.strip t
  match limit with
  | some n => if n < s.length then marker.shortenBy n s else .ok s
  | none => .ok s

/-- Strips a value and cuts it to a limit; only a text can be stripped, nothing stays nothing. -/
def trim (value limit marker : Value) : Except Fault Value :=
  match value with
  | .null => .ok .null
  | .text t =>
    let s := Text.strip t
    match limit with
    | .null => .ok (.text s)
    | _ =>
      match limit.number? with
      | none => .error .wrongType
      | some bound =>
        if 0 ≤ bound ∧ bound < (s.length : Rat) then
          match limit.integer? with
          | none => .error .wrongType
          | some n => (marker.shortenBy n.toNat s).map .text
        else .ok (.text s)
  | _ => .error .missingOperation

end Value

/-- The case mode that a value stands for: the numbers 0, 1 and 2, of whatever type. -/
def CaseMode.ofValue? (v : Value) : Option CaseMode :=
  if v.equalsInt 0 then some .lower
  else if v.equalsInt 1 then some .first
  else if v.equalsInt 2 then some .words
  else none

/-- Converts a value in a mode, and warns of a mode that is unknown. Without a mode, and in an unknown
one, any value is left as it is. -/
def Value.inCase (value mode : Value) : Except Fault Value × List Warning :=
  match value, mode with
  | .null, _ => (.ok .null, [])
  | value, .null => (.ok value, [])
  | value, mode =>
    match CaseMode.ofValue? mode with
    | none => (.ok value, [.unknownCaseMode mode])
    | some m =>
      match value with
      | .text t => (.ok (.text (Text.inCase m t)), [])
      | _ => (.error .missingOperation, [])

end NameTag
