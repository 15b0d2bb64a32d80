import NameTag.Command.Assignment
import NameTag.Proofs.Edit

/-!
# Runs of sessions

What an operation of a session leaves of its subject and of the session, and how building a tag from
assignments comes apart.
-/

namespace NameTag

theorem Report.passed_iff {α : Type} {r : Report α} : r.passed = true ↔ r.problem? = none := by
  obtain ⟨result, warnings⟩ := r
  cases result <;> simp [Report.passed, Report.problem?, Except.isOk, Except.toBool]

/-- The report of an outcome; a fault has none. -/
def Outcome.report {α : Type} (o : Outcome α) : Except Fault (Report α) :=
  match o.result with
  | .ok a => .ok ⟨.ok a, o.warnings⟩
  | .error (.problem p) => .ok ⟨.error p, o.warnings⟩
  | .error (.fault f) => .error f

theorem Outcome.eq_of_report {α : Type} {o : Outcome α} {a : α} {ws : List Warning}
    (h : o.report = .ok ⟨.ok a, ws⟩) : o = ⟨.ok a, ws⟩ := by
  obtain ⟨result, warnings⟩ := o
  cases result with
  | ok b =>
    cases h
    rfl
  | error e => cases e <;> cases h

namespace Session

variable {α : Type} {o : Outcome α} {s s' : Session} {subject after : Subject}

/-- The session after a result: a report is recorded, a fault is not. -/
def noted (s : Session) : Except Fault (Report α) → Session
  | .ok report => s.note report
  | .error _ => s

theorem conclude_run (o : Outcome α) (s : Session) : conclude o s = (o.report, s.noted o.report) := by
  obtain ⟨result, warnings⟩ := o
  cases result with
  | ok a => rfl
  | error e => cases e <;> rfl

theorem conclude_eq_ok {a : α} {ws : List Warning} (h : (conclude o s).1 = .ok ⟨.ok a, ws⟩) :
    o = ⟨.ok a, ws⟩ := by
  rw [conclude_run] at h
  exact o.eq_of_report h

theorem conclude_settings (o : Outcome α) (s : Session) :
    (conclude o s).2.settings = s.settings := by
  obtain ⟨result, warnings⟩ := o
  cases result with
  | ok b => rfl
  | error e => cases e <;> rfl

theorem perform_subject (body : Value → Edit α) (subject : Subject) (s : Session) :
    (perform body subject s).1.2 = ((body s.settings.marker).run subject).2 := rfl

theorem perform_settings (body : Value → Edit α) (subject : Subject) (s : Session) :
    (perform body subject s).2.settings = s.settings :=
  conclude_settings _ s

theorem perform_eq (body : Value → Edit α) (subject : Subject) (s : Session) :
    perform body subject s =
      (((conclude ((body s.settings.marker).run subject).1 s).1,
        ((body s.settings.marker).run subject).2),
        (conclude ((body s.settings.marker).run subject).1 s).2) := rfl

theorem perform_run (body : Value → Edit α) (subject : Subject) (s : Session) :
    perform body subject s =
      ((((body s.settings.marker).run subject).1.report,
        ((body s.settings.marker).run subject).2),
        s.noted ((body s.settings.marker).run subject).1.report) := by
  rw [perform_eq, conclude_run]

/-- An operation reports a result exactly if its edit ends in the result. -/
theorem perform_eq_ok_iff {body : Value → Edit α} {a : α} {ws : List Warning} :
    (perform body subject s).1 = (.ok ⟨.ok a, ws⟩, after) ↔
      body s.settings.marker ⟨subject, []⟩ = .ok a ⟨after, ws⟩ := by
  rw [perform_run, ← Edit.run_eq_ok_iff, Prod.mk.injEq]
  constructor
  · rintro ⟨hreport, rfl⟩
    exact Prod.ext (Outcome.eq_of_report hreport) rfl
  · intro h
    rw [h]
    exact ⟨rfl, rfl⟩

theorem render_run (subject : Subject) (pattern mode : Value) (s : Session) :
    render subject pattern mode s =
      (((Edit.render pattern mode).run subject).1.report,
        s.noted ((Edit.render pattern mode).run subject).1.report) := by
  show ((perform (fun _ => Edit.render pattern mode) subject s).1.1,
    (perform (fun _ => Edit.render pattern mode) subject s).2) = _
  rw [perform_run]

/-! ## Tasks -/

variable {β : Type}

theorem task_bind_run (x : Task α) (f : α → Task β) (s : Session) :
    (x >>= f).run s = match x.run s with
      | (.ok a, s₁) => (f a).run s₁
      | (.error e, s₁) => (.error e, s₁) := by
  show ExceptT.bindCont f (x.run s).1 (x.run s).2 = _
  rcases x.run s with ⟨r, s₁⟩
  cases r <;> rfl

theorem task_map_run (x : Task α) (f : α → β) (s : Session) :
    (do let a ← x; pure (f a) : Task β).run s = ((x.run s).1.map f, (x.run s).2) := by
  rw [task_bind_run]
  rcases x.run s with ⟨result, s₁⟩
  cases result <;> rfl

theorem task_except_run (r : Except Fault α) (s : Session) : (liftM r : Task α).run s = (r, s) := by
  cases r <;> rfl

theorem task_step_run (x : Step α) (s : Session) :
    (liftM x : Task α).run s = (.ok (x s).1, (x s).2) := rfl

theorem task_pure_run (a : α) (s : Session) : (pure a : Task α).run s = (.ok a, s) := rfl

theorem task_get_bind_run (f : Session → Task α) (s : Session) :
    (do let s' ← get; f s' : Task α).run s = (f s).run s := rfl

end Session

namespace Command

open Session

/-- One assignment: it is read, stored in the session, and the rest goes on if it was stored. -/
theorem assignAll_cons (subject : Subject) (expr : Value) (rest : List Value) (s : Session) :
    (assignAll subject (expr :: rest)).run s =
      match parseAssignment expr with
      | .error e => (.error e, s)
      | .ok (f, value) =>
        match setField subject (.text f.name) (.text value) s with
        | ((.error e, _), s₁) => (.error e, s₁)
        | ((.ok report, after), s₁) =>
          match report.problem? with
          | some p => (.error (.badValue (.assignmentRejected f.name p)), s₁)
          | none => (assignAll after rest).run s₁ := by
  rw [assignAll, task_bind_run, task_except_run]
  cases parseAssignment expr with
  | error e => rfl
  | ok p =>
    obtain ⟨f, value⟩ := p
    simp only [task_bind_run, task_step_run, task_except_run]
    rcases setField subject (.text f.name) (.text value) s with ⟨⟨result, after⟩, s₁⟩
    cases result with
    | error e => rfl
    | ok report =>
      simp only
      cases report.problem? <;> rfl

/-- The assignments that are made, if the value has parts. -/
def assignments? (v : Value) : Option (List Value) :=
  if !v.isTrue then some [] else v.parts?

theorem buildTag_run (v : Value) (s : Session) :
    (buildTag v).run s =
      match assignments? v with
      | none => (.error .wrongType, s)
      | some exprs =>
        match (assignAll (.editable .empty) exprs).run s with
        | (.ok subject, s₁) => (.ok (subject.tag?.getD .empty), s₁)
        | (.error e, s₁) => (.error e, s₁) := by
  rw [buildTag, assignments?]
  by_cases hv : (!v.isTrue) = true
  · rw [if_pos hv, if_pos hv]
    exact task_bind_run _ _ s
  · rw [if_neg hv, if_neg hv]
    cases v.parts? with
    | none => rfl
    | some exprs =>
      simp only [task_bind_run, task_pure_run]
      rcases (assignAll (.editable .empty) exprs).run s with ⟨result, s₁⟩
      cases result <;> rfl

theorem assignments?_list (exprs : List Value) : assignments? (.list exprs) = some exprs := by
  cases exprs <;> rfl

end Command

end NameTag
