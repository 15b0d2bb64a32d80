import NameTag.Edit
import NameTag.Value.Trim

/-!
# Storing a value in a field

Text fields are cut to what they may hold, with a warning. A year is four digits; a track number lies
between 1 and 255. A tag with a track number has a shorter comment: storing the track number cuts the
comment that is there, storing a comment beside a track number cuts it at once.
-/

namespace NameTag

def isYear (t : Text) : Bool :=
  t.length == 4 && t.all isAsciiDigit

/-- The number that ASCII digits denote, if at most three are left without leading zeros. -/
def trackNumber? (t : Text) : Option Nat :=
  if t.isEmpty || !t.all isAsciiDigit then none
  else
    let digits := t.dropWhile (· == '0')
    if digits.length ≤ 3 then some (Text.decimalValue digits) else none

def isTrackNumber (t : Text) : Bool :=
  match trackNumber? t with
  | some n => decide (0 < n) && decide (n < 256)
  | none => false

namespace Tag

/-- The most characters that a field may hold in this tag. -/
def limit (t : Tag) (f : Field) : Option Nat :=
  if f = .comment ∧ (t.value .trackNumber).isTrue then
    f.maxLength.map (· - Field.trackNumberReserve)
  else f.maxLength

/-- The most characters of a comment beside a track number. -/
def shortComment : Option Nat :=
  Field.comment.maxLength.map (· - Field.trackNumberReserve)

end Tag

namespace Edit

def setField (f : Field) (stored : Text) : Edit Unit := do
  putTag ((← editable).setText f stored)

/-- Cuts the comment of a tag that gets a track number. Only a text can be cut. -/
def shrinkComment (marker : Value) : Edit Unit := do
  let comment := (← editable).value .comment
  if comment.isTrue then
    match comment with
    | .text t =>
      let short ← ofExcept (marker.trimTo Tag.shortComment t)
      setField .comment short
      if short ≠ t then warn (.commentShrunk short)
    | _ => throw (.fault .missingOperation)

/-- Stores a text that the field accepts as it is, or cut to its limit. -/
def storeText (marker : Value) (f : Field) (t : Text) : Edit Text := do
  match f with
  | .year =>
    if !isYear t then throw (.problem .yearMalformed)
    setField f t
    pure t
  | .trackNumber =>
    if !isTrackNumber t then throw (.problem .trackNumberMalformed)
    shrinkComment marker
    setField f t
    pure t
  | _ =>
    let stored ← ofExcept (marker.trimTo ((← editable).limit f) t)
    if stored ≠ t then warn (.truncated f stored)
    setField f stored
    pure stored

/-- Stores a value under the name of a field and gives the text that is stored. -/
def store (marker field value : Value) : Edit Text := do
  let _ ← editable
  match field, value with
  | .text name, value =>
    match Field.ofName? name, value with
    | none, _ | _, .null => throw (.problem .noFieldOrValue)
    | some f, v => storeText marker f (Text.strip v.shown)
  | _, _ => throw (.problem .noFieldOrValue)

end Edit

end NameTag
