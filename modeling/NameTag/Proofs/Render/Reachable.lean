import NameTag.Proofs.Reachable
import NameTag.Proofs.Render

/-!
# Rendering reachable tags

A text that was stored in a field begins with no blank, so it does not vanish when it is rendered,
and a track number that was accepted can be written. So a reachable tag is refused a name only for
fields that are empty (`Session.render_of_reachable`).
-/

namespace NameTag

variable {v : Field → Text}

theorem ValidTexts.fieldText_eq_nil_iff (hv : ValidTexts v) (f : Field) :
    (Tag.ofTexts v).fieldText f = [] ↔ v f = [] := by
  rw [Tag.fieldText, Tag.value_ofTexts]
  exact (hv.leftStripped f).strip_eq_nil_iff

theorem ValidTexts.fieldText_trackNumber (hv : ValidTexts v) :
    (Tag.ofTexts v).fieldText .trackNumber = v .trackNumber := by
  refine Edit.fieldText_of_value (Tag.value_ofTexts v _) ?_
  rcases hv.trackNumber with h | ⟨hd, -⟩
  · rw [h]
    rfl
  · exact Text.strip_of_isAsciiDigit hd

namespace Session

variable {allowed : Option Text → Prop} {subject : Subject}

/-- Rendering a reachable tag fails exactly if fields of the pattern are empty, and then for the lack
of these fields, which the message lists once each in the order of all fields. -/
theorem render_of_reachable (h : Reachable allowed subject) (p : Text) (mode : Value)
    (s : Session) :
    ∃ v report, subject = .editable (.ofTexts v) ∧
      (render subject (.text p) mode s).1 = .ok report ∧
      let missing := Field.all.filter fun f => decide (f ∈ Pattern.fields p ∧ v f = [])
      report.problem? = (if missing = [] then none else some (.missingValues missing)) ∧
      ∀ problem ∈ report.problem?, problem.kind = .missingValue ∧
        problem.message = "found empty tag field(s) required by your pattern: ".toList ++
          Text.join ", ".toList (missing.map Field.name) := by
  obtain ⟨v, rfl, hv, -⟩ := h.valid
  have hempty : Edit.usedEmpty (.ofTexts v) (Pattern.fields p) Field.all =
      Field.all.filter fun f => decide (f ∈ Pattern.fields p ∧ v f = []) := by
    refine List.filter_congr fun f _ => ?_
    rw [decide_eq_decide, hv.fieldText_eq_nil_iff]
  obtain ⟨name, -, hrun⟩ := Edit.render_of_renderable (s := .editable (.ofTexts v)) rfl
    (Edit.renderable_of_valid hv hv.fieldText_trackNumber (Pattern.fields p)) mode []
  rw [hempty] at hrun
  rw [render_run]
  split_ifs at hrun with hnone
  · rw [Edit.run_eq_ok_iff.2 hrun]
    exact ⟨v, _, rfl, rfl, (if_pos hnone).symm, fun problem hp => by cases hp⟩
  · rw [Edit.run_eq_error_iff.2 hrun]
    refine ⟨v, _, rfl, rfl, (if_neg hnone).symm, fun problem hp => ?_⟩
    cases hp
    exact ⟨rfl, rfl⟩

/-- A title of blanks is stored as nothing, so it is missing beside the artist. -/
theorem render_of_reachable_blank_title :
    let s : Session := { settings := { marker := .text " ".toList } }
    let numbered := (setField (.editable .empty) (.text "TRACKNUM".toList) (.int 7) s).1.2
    let titled := (setField numbered (.text "TITLE".toList) (.text "  ".toList) s).1.2
    ∃ report, (render titled (.text "((tracknum)) ((ARTIST)) - ((TITLE))".toList) .null s).1 =
        .ok report ∧
      report.problem? = some (.missingValues [.title, .artist]) := by
  intro s numbered titled
  have hin : s.InForce fun _ => True := ⟨some " ".toList, rfl, trivial⟩
  have hreach : Reachable (fun _ => True) titled := .setField _ _ hin (.setField _ _ hin .empty)
  obtain ⟨v, report, hsubject, hrun, hproblem, -⟩ :=
    render_of_reachable hreach "((tracknum)) ((ARTIST)) - ((TITLE))".toList .null s
  have hfields : Pattern.fields "((tracknum)) ((ARTIST)) - ((TITLE))".toList =
      [.trackNumber, .artist, .title] := by
    decide +kernel
  have htitled : titled = .editable (.ofTexts fun
      | .trackNumber => "7".toList
      | _ => []) := rfl
  rw [htitled, Subject.editable.injEq] at hsubject
  have htext := fun f => congrArg (Tag.text · f) hsubject
  simp only [Tag.text_ofTexts] at htext
  simp only [hfields, ← htext] at hproblem
  exact ⟨report, hrun, hproblem⟩

end Session

end NameTag
