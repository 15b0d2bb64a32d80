import NameTag.Batch
import NameTag.Proofs.Session

/-!
# Items of a batch

An item records its report in its session, or a fault leaves the session alone. Of the session it
only uses the marker (`Session.parseItem_of_report`).
-/

namespace NameTag

/-- What is read of a name: the name, or its stem. -/
def ParseOptions.source (o : ParseOptions) (name : Value) : Except Fault Value :=
  if o.stripExtension.isTrue then
    match name with
    | .text t => .ok (.text (Text.stem t))
    | _ => .error .wrongType
  else .ok name

namespace Session

/-- The part of an item behind what is read of its name. -/
theorem parseFrom_run (o : ParseOptions) (name source : Value) (s : Session) :
    (do
      let tag ← o.base.baseTag
      let (result, after) ← parse (.editable tag) source o.pattern o.mode o.weed
      let report ← result
      pure ⟨name, source, report, after.tag?.getD tag⟩ : Task ParsedItem).run s =
      match o.base.baseTag with
      | .error f => (.error f, s)
      | .ok tag =>
        match parse (.editable tag) source o.pattern o.mode o.weed s with
        | ((.error f, _), s₁) => (.error f, s₁)
        | ((.ok report, after), s₁) => (.ok ⟨name, source, report, after.tag?.getD tag⟩, s₁) := by
  simp only [task_bind_run, task_except_run, task_step_run]
  cases o.base.baseTag with
  | error f => rfl
  | ok tag =>
    simp only
    rcases parse (.editable tag) source o.pattern o.mode o.weed s with ⟨⟨result, after⟩, s₁⟩
    cases result <;> rfl

theorem parseItem_run (o : ParseOptions) (name : Value) (s : Session) :
    (parseItem o name).run s =
      match o.source name with
      | .error f => (.error f, s)
      | .ok source =>
        match o.base.baseTag with
        | .error f => (.error f, s)
        | .ok tag =>
          match parse (.editable tag) source o.pattern o.mode o.weed s with
          | ((.error f, _), s₁) => (.error f, s₁)
          | ((.ok report, after), s₁) => (.ok ⟨name, source, report, after.tag?.getD tag⟩, s₁) := by
  unfold parseItem ParseOptions.source
  by_cases h : o.stripExtension.isTrue = true
  · rw [if_pos h, if_pos h]
    cases name with
    | text t => exact parseFrom_run o _ _ s
    | _ => rfl
  · rw [if_neg h, if_neg h]
    exact parseFrom_run o name name s

/-- What an item gives if its extraction gives a report. -/
theorem parseItem_of_report {o : ParseOptions} {name source marker : Value} {t : Tag}
    {report : Report Nat} (hsource : o.source name = .ok source) (ht : o.base.baseTag = .ok t)
    (hreport : ((Edit.extract marker source o.pattern o.mode o.weed).run
      (.editable t)).1.report = .ok report) {s : Session} (hs : s.settings.marker = marker) :
    (parseItem o name).run s =
      (.ok ⟨name, source, report, ((Edit.extract marker source o.pattern o.mode o.weed).run
        (.editable t)).2.tag?.getD t⟩, s.note report) := by
  rw [parseItem_run, hsource, ht]
  simp only [parse, perform_run, hs]
  rw [hreport]
  rfl

/-- The report of an item is recorded. -/
theorem parseItem_session (o : ParseOptions) (name : Value) (s : Session) :
    ((parseItem o name).run s).2 =
      s.noted (((parseItem o name).run s).1.map ParsedItem.report) := by
  rw [parseItem_run]
  cases o.source name with
  | error f => rfl
  | ok source =>
    cases o.base.baseTag with
    | error f => rfl
    | ok tag =>
      simp only [parse, perform_run]
      generalize (Edit.run _ _) = run
      obtain ⟨outcome, after⟩ := run
      cases outcome.report <;> rfl

theorem renderItem_session (pattern mode : Value) (subject : Subject) (s : Session) :
    ((renderItem pattern mode subject).run s).2 =
      s.noted (((renderItem pattern mode subject).run s).1.map RenderedItem.report) := by
  have hrender : (ExceptT.mk (render subject pattern mode) : Task (Report Text)).run s =
      render subject pattern mode s := rfl
  rw [renderItem, task_bind_run, hrender, render_run]
  cases ((Edit.render pattern mode).run subject).1.report <;> rfl

end Session

end NameTag
