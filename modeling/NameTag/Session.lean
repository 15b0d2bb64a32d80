import NameTag.Extract
import NameTag.Render
import NameTag.Frame.Tag
import NameTag.Settings

/-!
# Sessions

A session holds the settings, the warnings that nobody has fetched yet and the last problem. Its
operations give reports: a result or a problem, and the warnings. Every report is recorded, a fault
leaves the session as it was.
-/

namespace NameTag

structure Report (α : Type) where
  result : Except Problem α
  warnings : List Warning

namespace Report

variable {α : Type}

def passed (r : Report α) : Bool :=
  r.result.isOk

def value? (r : Report α) : Option α :=
  r.result.toOption

def problem? (r : Report α) : Option Problem :=
  match r.result with
  | .ok _ => none
  | .error p => some p

end Report

structure Session where
  settings : Settings := {}
  pending : List Warning := []
  lastProblem : Option Problem := none

namespace Session

/-- A step of a session. -/
abbrev Step := StateM Session

variable {α : Type}

/-- Keeps the warnings of a report and its problem, if it has one. -/
def note (s : Session) (r : Report α) : Session :=
  { s with
    pending := s.pending ++ r.warnings
    lastProblem := r.problem?.or s.lastProblem }

/-- Turns an outcome into a report and records it, unless it is a fault. -/
def conclude (o : Outcome α) : Step (Except Fault (Report α)) := do
  match o.result with
  | .ok a =>
    let report : Report α := ⟨.ok a, o.warnings⟩
    modify (·.note report)
    pure (.ok report)
  | .error (.problem p) =>
    let report : Report α := ⟨.error p, o.warnings⟩
    modify (·.note report)
    pure (.ok report)
  | .error (.fault f) => pure (.error f)

/-- Runs an edit on a subject, and gives the report and the subject afterwards. -/
def perform (body : Value → Edit α) (s : Subject) : Step (Except Fault (Report α) × Subject) := do
  let (outcome, after) := (body (← get).settings.marker).run s
  pure (← conclude outcome, after)

/-- Stores a value in a field. -/
def setField (s : Subject) (field value : Value) : Step (Except Fault (Report Text) × Subject) :=
  perform (fun marker => Edit.store marker field value) s

/-- Sets the fields of a tag from a name along a pattern. -/
def parse (s : Subject) (source pattern mode weed : Value) :
    Step (Except Fault (Report Nat) × Subject) :=
  perform (fun marker => Edit.extract marker source pattern mode weed) s

/-- The name that a tag gives along a pattern. -/
def render (s : Subject) (pattern mode : Value) : Step (Except Fault (Report Text)) := do
  pure (← perform (fun _ => Edit.render pattern mode) s).1

def tagFromFrames (source : FrameSource) : Step (Except Fault (Report Tag)) := do
  conclude (readFrames (← get).settings.marker source)

def tagToFrames (rules : FrameRules) (s : Subject) : Step (Except Fault (Report (List Frame))) :=
  conclude ⟨(buildFrames rules s).mapError .problem, []⟩

/-- Fetches the pending warnings; none are pending afterwards. -/
def flushWarnings : Step (List Warning) :=
  modifyGet fun s => (s.pending, { s with pending := [] })

/-- The message of the last problem; empty if there was none. -/
def lastError (s : Session) : Text :=
  (s.lastProblem.map Problem.message).getD []

end Session

end NameTag
