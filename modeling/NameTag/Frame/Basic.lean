import NameTag.Frame.Timestamp
import NameTag.Fault
import NameTag.Field

/-!
# Frames

A frame holds texts under an identifier; a comment frame also has a language and a description. What
keeps frames has rules of its own (`FrameRules`). By the standard rules each key has one frame in a set,
a frame with the key of an earlier one takes its place, and timestamps are normalized.
-/

namespace NameTag

/-- A frame. Its texts are usually a list; a frame may lack them or hold a value of another type. -/
structure Frame where
  id : Text
  texts : Option Value
  language : Text
  description : Text
  deriving Repr

namespace Frame

/-- The encoding in which the texts of a new frame are stored: UTF-8. -/
def encoding : Nat := 3

def defaultLanguage : Text := "eng".toList

/-- A frame with one text. -/
def ofText (id text : Text) : Frame :=
  ⟨id, some (.list [.text text]), defaultLanguage, []⟩

/-- What tells frames in a set apart: the identifier, for comments with description and language. -/
def key (f : Frame) : Text :=
  if f.id = Field.comment.frameId then f.id ++ ':' :: f.description ++ ':' :: f.language else f.id

/-- The frame as a set keeps it: the texts of a timestamp are normalized. -/
def kept (f : Frame) : Frame :=
  if f.id = Field.year.frameId then
    match f.texts with
    | some (.list items) =>
      { f with texts := some (.list (items.map fun v => .text (Timestamp.normalize v.shown))) }
    | _ => f
  else f

/-- The texts of a frame: a text counts character by character, a record by its names. -/
def items (f : Frame) : Except Fault (List Text) :=
  match f.texts with
  | none => .ok []
  | some (.text t) => .ok (t.map fun c => [c])
  | some (.list vs) => .ok (vs.map Value.shown)
  | some (.record entries) => .ok (entries.map (·.1))
  | some _ => .error .wrongType

end Frame

/-- Adds a frame to a set, in place of the one with its key. -/
def addFrame (f : Frame) : List Frame → List Frame
  | [] => [f.kept]
  | g :: rest => if g.key = f.key then f.kept :: rest else g :: addFrame f rest

/-- The rules of what keeps frames: what tells frames in a set apart, what is kept of a new frame, and
what becomes of a set when a frame is added. -/
structure FrameRules where
  key : Frame → Text
  kept : Frame → Frame
  add : Frame → List Frame → List Frame

namespace FrameRules

def standard : FrameRules :=
  ⟨Frame.key, Frame.kept, addFrame⟩

/-- The set of some frames, added in order. -/
def set (rules : FrameRules) (frames : List Frame) : List Frame :=
  frames.foldl (fun set f => rules.add f set) []

end FrameRules

/-- Where frames are read from: some frames, or something that holds none. -/
inductive FrameSource
  | frames (fs : List Frame)
  | other
  deriving Repr

end NameTag
