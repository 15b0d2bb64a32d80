import NameTag.Fault
import NameTag.Tag

/-!
# Editing a tag

A caller hands over a subject: a tag, a tag that may only be read, or something else. An edit runs on
a draft, the subject with the warnings given so far. What an edit did to the draft before it fails is
kept, so that an edit leaves no half-made changes is a fact about each edit; `Edit.onCopy` is the means
to it.
-/

namespace NameTag

inductive Subject
  | editable (tag : Tag)
  | readOnly (tag : Tag)
  | other (value : Value)
  deriving Repr

namespace Subject

/-- The tag of a subject that can be read. -/
def tag? : Subject → Option Tag
  | editable tag | readOnly tag => some tag
  | other _ => none

/-- A value as a subject: a record is a tag that may be edited. -/
def ofValue : Value → Subject
  | .record entries => editable ⟨entries⟩
  | value => other value

/-- The fields of a subject on one line. -/
def summary (s : Subject) (showEmpty : Bool) : Text :=
  match s.tag? with
  | some tag => tag.summary showEmpty
  | none => "no tag mapping given".toList

end Subject

structure Draft where
  subject : Subject
  warnings : List Warning
  deriving Repr

abbrev Edit (α : Type) := EStateM Failure Draft α

namespace Edit

/-- The tag of the draft, which must be one that may be edited. -/
def editable : Edit Tag := do
  match (← get).subject with
  | .editable tag => pure tag
  | _ => throw (.problem .tagNotEditable)

/-- The tag of the draft, which must be one that may be read. -/
def readable : Edit Tag := do
  match (← get).subject.tag? with
  | some tag => pure tag
  | none => throw (.problem .tagNotReadable)

def putTag (tag : Tag) : Edit Unit :=
  modify fun d => { d with subject := .editable tag }

def warn (w : Warning) : Edit Unit :=
  modify fun d => { d with warnings := d.warnings ++ [w] }

/-- An outcome that may be a fault. -/
def ofExcept {ε α : Type} [Coe ε Failure] (r : Except ε α) : Edit α :=
  match r with
  | .ok a => pure a
  | .error e => throw (e : Failure)

/-- Runs an edit on a copy of the tag. If it succeeds, the entries of the copy are set in the tag;
otherwise the tag stays as it was. The warnings are kept either way. -/
def onCopy {α : Type} (body : Edit α) : Edit α := fun d =>
  match body d with
  | .ok a after =>
    match d.subject, after.subject with
    | .editable before, .editable copy =>
      .ok a { after with subject := .editable (before.update copy.entries) }
    | _, _ => .ok a { after with subject := d.subject }
  | .error e after => .error e { after with subject := d.subject }

end Edit

/-- What an operation gives: a result or why there is none, and the warnings either way. -/
structure Outcome (α : Type) where
  result : Except Failure α
  warnings : List Warning

/-- Runs an edit on a subject from a fresh list of warnings. -/
def Edit.run {α : Type} (body : Edit α) (s : Subject) : Outcome α × Subject :=
  match body ⟨s, []⟩ with
  | .ok a d => (⟨.ok a, d.warnings⟩, d.subject)
  | .error e d => (⟨.error e, d.warnings⟩, d.subject)

end NameTag
