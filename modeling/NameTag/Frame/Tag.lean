import NameTag.Frame.Basic
import NameTag.Store

/-!
# Tags from frames and frames from tags

Reading takes, for each field, the first text of its frames that is not blank, and stores it like any
other value; a year or track number that is refused is skipped with a warning. Building gives a frame
for each field that is not empty.
-/

namespace NameTag

/-- The first text that is not blank, stripped. -/
def firstText? : List Frame → Except Fault (Option Text)
  | [] => .ok none
  | f :: rest => do
    let texts ← f.items
    match texts.find? fun t => !(Text.strip t).isEmpty with
    | some t => pure (some (Text.strip t))
    | none => firstText? rest

/-- The part of a frame's text that the field takes: a track number may be followed by a slash and the
number of tracks, a year by the rest of a timestamp. -/
def Field.partOf (f : Field) (raw : Text) : Text :=
  match f with
  | .trackNumber => raw.takeWhile (· != '/')
  | .year => raw.take 4
  | _ => raw

namespace Edit

def readField (marker : Value) (frames : List Frame) (f : Field) : Edit Unit := do
  match ← ofExcept (firstText? (frames.filter (·.id == f.frameId))) with
  | none => pure ()
  | some raw =>
    let value := f.partOf raw
    tryCatch (discard (storeText marker f (Text.strip value))) fun
      | .problem p =>
        if p.kind = .validation then warn (.frameSkipped f.frameId value p) else throw (.problem p)
      | .fault e => throw (.fault e)

def readFields (marker : Value) (frames : List Frame) : List Field → Edit Unit
  | [] => pure ()
  | f :: rest => do
    readField marker frames f
    readFields marker frames rest

end Edit

/-- The tag that frames describe. -/
def readFrames (marker : Value) (source : FrameSource) : Outcome Tag :=
  match source with
  | .other => ⟨.error (.problem .noFrames), []⟩
  | .frames frames =>
    ((do Edit.readFields marker frames Field.all; Edit.editable) |>.run (.editable .empty)).1

/-- The frame of a field, unless its text is empty. -/
def Tag.frame? (rules : FrameRules) (t : Tag) (f : Field) : Option Frame :=
  let text := t.fieldText f
  if text.isEmpty then none else some (rules.kept (Frame.ofText f.frameId text))

/-- The frames of a tag, in the order of the fields. -/
def buildFrames (rules : FrameRules) (s : Subject) : Except Problem (List Frame) :=
  match s.tag? with
  | some tag => .ok (Field.all.filterMap (tag.frame? rules))
  | none => .error .tagNotReadable

end NameTag
