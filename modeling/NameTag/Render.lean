import NameTag.Pattern
import NameTag.Edit
import NameTag.Value.Trim

/-!
# From a tag to a name

Every placeholder of a field is replaced by the field's value, a track number with at least two
digits; other placeholders stay. Nothing inside a value is replaced. Values that fill their field get
a warning, because they may have been cut.
-/

namespace NameTag

/-- A track number in decimal with two digits or more: digits of any script, at most three without
leading zeros. -/
def renderTrackNumber? (t : Text) : Option Text :=
  let digits := t.dropWhile (· == '0')
  if t.isEmpty || !t.all isDecimalDigit || 3 < digits.length then none
  else some (Text.ofNatPadded 2 (Text.decimalValue digits))

/-- Whether a value of this length fills its field; a year always does. -/
def fills (f : Field) (t : Text) : Bool :=
  f != .year && f.maxLength == some t.length

namespace Edit

/-- The texts of the fields that are used, and the fields that have none. -/
def usedValues (tag : Tag) (used : List Field) :
    List Field → Edit (List (Field × Text) × List Field)
  | [] => pure ([], [])
  | f :: rest => do
    if f ∉ used then usedValues tag used rest
    else
      let value := tag.fieldText f
      if value.isEmpty then
        let (values, missing) ← usedValues tag used rest
        pure (values, f :: missing)
      else
        if fills f value then warn (.maxLengthReached f value)
        let written ←
          if f = .trackNumber then
            match renderTrackNumber? value with
            | some number => pure number
            | none => throw (.problem (.trackNumberUnrenderable value))
          else pure value
        let (values, missing) ← usedValues tag used rest
        pure ((f, written) :: values, missing)

/-- What comes in for a placeholder: the value of its field, or the placeholder itself. -/
def replacement (values : List (Field × Text)) (name : Text) : Text :=
  match (Field.ofName? name).bind fun f => values.lookup f with
  | some value => value
  | none => Problem.placeholder name

/-- The pattern with the values of the tag, in the case mode; an unknown mode only gives a warning. -/
def render (pattern mode : Value) : Edit Text := do
  let tag ← readable
  match pattern with
  | .text p =>
    let p := Pattern.normalize p
    let (values, missing) ← usedValues tag (Pattern.fields p) Field.all
    if !missing.isEmpty then throw (.problem (.missingValues missing))
    let name := Pattern.substitute (replacement values) p
    match mode with
    | .null => pure name
    | mode =>
      match CaseMode.ofValue? mode with
      | some m => pure (Text.inCase m name)
      | none =>
        warn (.unknownCaseMode mode)
        pure name
  | _ => throw (.problem .patternNotText)

end Edit

end NameTag
