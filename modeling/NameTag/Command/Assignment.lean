import NameTag.Batch

/-!
# Assignments

An assignment `FIELD=VALUE` names a field, in any case, and the value it gets. A tag is built from
assignments, each of which is checked like any other value.
-/

namespace NameTag.Command

/-- The field and the value of an assignment, cut at the first equals sign. -/
def parseAssignment (expr : Value) : Except Fault (Field × Text) :=
  if !expr.isTrue then .error (.badValue .assignmentForm)
  else
    match expr with
    | .text t =>
      match Text.cut? ['='] t with
      | none => .error (.badValue .assignmentForm)
      | some (before, value) =>
        let name := Text.upper (Text.strip before)
        if name.isEmpty then .error (.badValue .assignmentFieldEmpty)
        else
          match Field.ofName? name with
          | some f => .ok (f, value)
          | none => .error (.badValue (.assignmentField name))
    | .list items =>
      if items.any fun v => v matches .text ['='] then .error .missingOperation
      else .error (.badValue .assignmentForm)
    | .record entries =>
      if entries.any (·.1 == ['=']) then .error .missingOperation
      else .error (.badValue .assignmentForm)
    | _ => .error .wrongType

/-- Stores the values of the assignments one after the other. -/
def assignAll (s : Subject) : List Value → Session.Task Subject
  | [] => pure s
  | expr :: rest => do
    let (f, value) ← parseAssignment expr
    let (result, after) ← Session.setField s (.text f.name) (.text value)
    let report ← result
    match report.problem? with
    | some p => throw (.badValue (.assignmentRejected f.name p))
    | none => assignAll after rest

/-- The empty tag with the values of the assignments. -/
def buildTag (assignments : Value) : Session.Task Tag := do
  let exprs ← if !assignments.isTrue then pure [] else
    match assignments.parts? with
    | some parts => pure parts
    | none => throw .wrongType
  let s ← assignAll (.editable .empty) exprs
  pure (s.tag?.getD .empty)

end NameTag.Command
