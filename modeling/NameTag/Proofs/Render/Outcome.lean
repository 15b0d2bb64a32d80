import NameTag.Render
import NameTag.Proofs.Edit
import NameTag.Proofs.Pattern.Canonical
import NameTag.Proofs.Text.Digit

/-!
# The outcome of a rendering

The fields that a rendering looks up and the placeholders that it replaces come from two readings of
the pattern, which agree. So a rendering gives the tokens of the pattern with the value of each field
in its place, or says which fields have none (`render_of_renderable`), unless the track number cannot
be written in decimal (`render_of_not_renderable`).
-/

namespace NameTag

/-- The value of a field as it is rendered: a track number in decimal with two digits or more. -/
def rendered (v : Field → Text) (f : Field) : Text :=
  if f = .trackNumber ∧ v f ≠ [] then Text.ofNatPadded 2 (Text.decimalValue (v f)) else v f

theorem renderTrackNumber?_eq_some {t number : Text} (h : renderTrackNumber? t = some number) :
    number = Text.ofNatPadded 2 (Text.decimalValue t) := by
  rw [renderTrackNumber?, Text.decimalValue_dropWhile_zero] at h
  split at h
  · cases h
  · exact (Option.some.inj h).symm

theorem fills_nil (f : Field) : fills f [] = false := by
  cases f <;> decide

namespace Pattern

/-- The text under the name of a field; a placeholder of another name stays. -/
def valueOr (w : Field → Text) (name : Text) : Text :=
  (Field.ofName? name).elim (Problem.placeholder name) w

@[simp] theorem valueOr_name (w : Field → Text) (f : Field) : valueOr w f.name = w f := by
  rw [valueOr, Field.ofName?_name, Option.elim_some]

theorem fields_normalize (p : Text) : fields (normalize p) = fields p := by
  rw [fields, tokens_normalize, fields]

end Pattern

namespace Edit

open Pattern

variable {t : Tag} {used fields : List Field} {f : Field} {s : Subject} {ws : List Warning}

/-! ## The values that are used -/

/-- The track number can be written in decimal if it is used. -/
def Renderable (t : Tag) (used : List Field) : Prop :=
  .trackNumber ∈ used → t.fieldText .trackNumber ≠ [] →
    renderTrackNumber? (t.fieldText .trackNumber) ≠ none

instance (t : Tag) (used : List Field) : Decidable (Renderable t used) :=
  inferInstanceAs (Decidable (_ → _ → _))

/-- The fields of a list that are used and have a text. -/
def usedFull (t : Tag) (used fields : List Field) : List Field :=
  fields.filter fun f => decide (f ∈ used ∧ t.fieldText f ≠ [])

/-- The fields of a list that are used and have none. -/
def usedEmpty (t : Tag) (used fields : List Field) : List Field :=
  fields.filter fun f => decide (f ∈ used ∧ t.fieldText f = [])

/-- The warnings for values that fill their fields. -/
def fillWarnings (v : Field → Text) (used fields : List Field) : List Warning :=
  (fields.filter fun f => decide (f ∈ used) && fills f (v f)).map fun f => .maxLengthReached f (v f)

theorem fillWarnings_cons (v : Field → Text) (used : List Field) (f : Field) (fields : List Field) :
    fillWarnings v used (f :: fields) = fillWarnings v used [f] ++ fillWarnings v used fields := by
  rw [← List.singleton_append, fillWarnings, List.filter_append, List.map_append]
  rfl

theorem fillWarnings_singleton (h : f ∈ used) (v : Field → Text) :
    fillWarnings v used [f] = if fills f (v f) then [.maxLengthReached f (v f)] else [] := by
  cases hf : fills f (v f) <;> simp [fillWarnings, h, hf]

theorem fillWarnings_eq_nil {v : Field → Text} (h : f ∈ used → v f = []) :
    fillWarnings v used [f] = [] := by
  by_cases hf : f ∈ used
  · rw [fillWarnings_singleton hf, h hf, fills_nil]
    rfl
  · simp [fillWarnings, hf]

theorem usedValues_of_notMem (h : f ∉ used) :
    usedValues t used (f :: fields) = usedValues t used fields := by
  rw [usedValues, if_pos h]

theorem usedValues_of_empty (h : f ∈ used) (he : t.fieldText f = []) :
    usedValues t used (f :: fields) = (do
      let (values, missing) ← usedValues t used fields
      pure (values, f :: missing)) := by
  rw [usedValues, if_neg (not_not_intro h)]
  simp [he]

/-- A used field with a text: it is written after a warning or without one, if it can be. -/
theorem usedValues_of_text (h : f ∈ used) (hne : t.fieldText f ≠ []) :
    usedValues t used (f :: fields) ⟨s, ws⟩ =
      if f = .trackNumber ∧ renderTrackNumber? (t.fieldText f) = none then
        .error (.problem (.trackNumberUnrenderable (t.fieldText f)))
          ⟨s, ws ++ fillWarnings t.fieldText used [f]⟩
      else
        (do
          let (values, missing) ← usedValues t used fields
          pure ((f, rendered t.fieldText f) :: values, missing) : Edit _)
          ⟨s, ws ++ fillWarnings t.fieldText used [f]⟩ := by
  have hempty : (t.fieldText f).isEmpty = false := List.isEmpty_eq_false_iff.2 hne
  rw [usedValues, if_neg (not_not_intro h), fillWarnings_singleton h]
  simp only [hempty, Bool.false_eq_true, if_false]
  by_cases hn : f = .trackNumber
  · subst hn
    cases hnumber : renderTrackNumber? (t.fieldText .trackNumber) with
    | none => cases fills .trackNumber (t.fieldText .trackNumber) <;> simp
    | some number =>
      have hwritten : rendered t.fieldText .trackNumber = number := by
        rw [rendered, if_pos ⟨rfl, hne⟩, renderTrackNumber?_eq_some hnumber]
      cases fills .trackNumber (t.fieldText .trackNumber) <;> simp [hwritten]
  · have hwritten : rendered t.fieldText f = t.fieldText f := by
      rw [rendered, if_neg fun h => hn h.1]
    cases fills f (t.fieldText f) <;> simp [hn, hwritten]

/-- The used fields with a text are written, and those without one are found missing. -/
theorem usedValues_run (h : Renderable t used) (fields : List Field) :
    usedValues t used fields ⟨s, ws⟩ =
      .ok ((usedFull t used fields).map fun f => (f, rendered t.fieldText f),
          usedEmpty t used fields)
        ⟨s, ws ++ fillWarnings t.fieldText used fields⟩ := by
  induction fields generalizing ws with
  | nil => simp [usedValues, fillWarnings, usedFull, usedEmpty]
  | cons f fields ih =>
    rw [fillWarnings_cons]
    by_cases hf : f ∈ used
    · by_cases he : t.fieldText f = []
      · rw [usedValues_of_empty hf he, bind_of_ok ih, fillWarnings_eq_nil fun _ => he]
        simp [usedFull, usedEmpty, hf, he]
      · have hnumber : ¬ (f = .trackNumber ∧ renderTrackNumber? (t.fieldText f) = none) := by
          rintro ⟨rfl, hnone⟩
          exact h hf he hnone
        rw [usedValues_of_text hf he, if_neg hnumber, bind_of_ok ih, List.append_assoc]
        simp [usedFull, usedEmpty, hf, he]
    · rw [usedValues_of_notMem hf, ih, fillWarnings_eq_nil fun hin => absurd hin hf]
      simp [usedFull, usedEmpty, hf]

/-- A track number that cannot be written ends the search before anything is found missing. -/
theorem usedValues_of_not_renderable (h : ¬ Renderable t used) (hf : .trackNumber ∈ fields)
    (ws : List Warning) :
    ∃ ws', usedValues t used fields ⟨s, ws⟩ =
      .error (.problem (.trackNumberUnrenderable (t.fieldText .trackNumber))) ⟨s, ws'⟩ := by
  have hnot : .trackNumber ∈ used ∧ t.fieldText .trackNumber ≠ [] ∧
      renderTrackNumber? (t.fieldText .trackNumber) = none := by
    simpa [Renderable] using h
  obtain ⟨hused, hne, hnone⟩ := hnot
  induction fields generalizing ws with
  | nil => cases hf
  | cons f fields ih =>
    by_cases hn : f = .trackNumber
    · subst hn
      rw [usedValues_of_text hused hne, if_pos ⟨rfl, hnone⟩]
      exact ⟨_, rfl⟩
    · have hrest := (List.mem_cons.1 hf).resolve_left (Ne.symm hn)
      by_cases hfused : f ∈ used
      · by_cases he : t.fieldText f = []
        · obtain ⟨ws', hws⟩ := ih hrest ws
          rw [usedValues_of_empty hfused he, bind_of_error hws]
          exact ⟨ws', rfl⟩
        · obtain ⟨ws', hws⟩ := ih hrest (ws ++ fillWarnings t.fieldText used [f])
          rw [usedValues_of_text hfused he, if_neg fun h => hn h.1, bind_of_error hws]
          exact ⟨ws', rfl⟩
      · rw [usedValues_of_notMem hfused]
        exact ih hrest ws

/-! ## The name -/

theorem lookup_map_of_mem (w : Field → Text) (hf : f ∈ fields) :
    (fields.map fun f => (f, w f)).lookup f = some (w f) := by
  induction fields with
  | nil => cases hf
  | cons g fields ih =>
    rw [List.map_cons, List.lookup_cons]
    by_cases hfg : f = g
    · rw [hfg, beq_self_eq_true]
    · rw [beq_eq_false_iff_ne.2 hfg]
      exact ih ((List.mem_cons.1 hf).resolve_left hfg)

/-- If no field is missing, each placeholder of a field is replaced by its value. -/
theorem substitute_values {p : Text} (h : usedEmpty t (Pattern.fields p) Field.all = []) :
    substitute (replacement ((usedFull t (Pattern.fields p) Field.all).map
        fun f => (f, rendered t.fieldText f))) (normalize p) =
      (tokens p).flatMap (replaced (valueOr (rendered t.fieldText))) := by
  rw [substitute_normalize]
  refine List.flatMap_congr fun token htoken => ?_
  cases token with
  | literal l => rfl
  | placeholder name =>
    show replacement _ name = valueOr _ name
    cases hname : Field.ofName? name with
    | none => simp [replacement, valueOr, hname]
    | some f =>
      obtain rfl := Field.ofName?_eq_some.1 hname
      have hused : f ∈ Pattern.fields p := mem_fields.2 (mem_placeholders.2 htoken)
      have hne : t.fieldText f ≠ [] := by
        have := List.filter_eq_nil_iff.1 h f (Field.mem_all f)
        simpa [hused] using this
      have hfull : f ∈ usedFull t (Pattern.fields p) Field.all := by
        simp [usedFull, Field.mem_all, hused, hne]
      simp [replacement, hname, lookup_map_of_mem _ hfull]

theorem readable_of_tag? (h : s.tag? = some t) (ws : List Warning) :
    readable ⟨s, ws⟩ = .ok t ⟨s, ws⟩ := by
  cases s with
  | editable _ | readOnly _ => cases h; rfl
  | other v => cases h

/-- A name is put into the mode as a text is, with the same warnings. -/
theorem inMode_run (mode : Value) (name : Text) (s : Subject) (ws : List Warning) :
    ∃ name', (Value.inCase (.text name) mode).1 = .ok (.text name') ∧
      (match mode with
        | .null => pure name
        | mode =>
          match CaseMode.ofValue? mode with
          | some m => pure (Text.inCase m name)
          | none => do
            warn (.unknownCaseMode mode)
            pure name : Edit Text) ⟨s, ws⟩ =
        .ok name' ⟨s, ws ++ (Value.inCase (.text name) mode).2⟩ := by
  by_cases hnull : mode = .null
  · subst hnull
    have hno : (Value.inCase (.text name) .null).2 = [] := rfl
    exact ⟨name, rfl, by rw [hno, List.append_nil]; rfl⟩
  · simp only [Value.inCase]
    cases hmode : CaseMode.ofValue? mode with
    | none => exact ⟨name, rfl, rfl⟩
    | some m => exact ⟨Text.inCase m name, rfl, by simp⟩

/-- The name that a tag gives along a pattern: the tokens with the values in their places. -/
def nameOf (t : Tag) (p : Text) : Text :=
  (tokens p).flatMap (replaced (valueOr (rendered t.fieldText)))

/-- A rendering puts the values of the fields into the tokens and the name into the mode, or says
which of the fields have no value. -/
theorem render_of_renderable (hs : s.tag? = some t) {p : Text}
    (h : Renderable t (Pattern.fields p)) (mode : Value) (ws : List Warning) :
    ∃ name, (Value.inCase (.text (nameOf t p)) mode).1 = .ok (.text name) ∧
      render (.text p) mode ⟨s, ws⟩ =
        if usedEmpty t (Pattern.fields p) Field.all = [] then
          .ok name ⟨s, ws ++ fillWarnings t.fieldText (Pattern.fields p) Field.all ++
            (Value.inCase (.text (nameOf t p)) mode).2⟩
        else
          .error (.problem (.missingValues (usedEmpty t (Pattern.fields p) Field.all)))
            ⟨s, ws ++ fillWarnings t.fieldText (Pattern.fields p) Field.all⟩ := by
  obtain ⟨name, hname, hrun⟩ := inMode_run mode (nameOf t p) s
    (ws ++ fillWarnings t.fieldText (Pattern.fields p) Field.all)
  refine ⟨name, hname, ?_⟩
  rw [render, bind_of_ok (readable_of_tag? hs ws)]
  simp only [fields_normalize]
  rw [bind_of_ok (usedValues_run h Field.all)]
  by_cases hempty : usedEmpty t (Pattern.fields p) Field.all = []
  · simp only [hempty, List.isEmpty_nil, Bool.not_true, Bool.false_eq_true, if_false, if_true,
      substitute_values hempty]
    exact hrun
  · simp only [List.isEmpty_eq_false_iff.2 hempty, Bool.not_false, if_true, if_neg hempty]
    exact bind_of_error rfl

/-- A track number that cannot be written in decimal is refused. -/
theorem render_of_not_renderable (hs : s.tag? = some t) {p : Text}
    (h : ¬ Renderable t (Pattern.fields p)) (mode : Value) (ws : List Warning) :
    ∃ ws', render (.text p) mode ⟨s, ws⟩ =
      .error (.problem (.trackNumberUnrenderable (t.fieldText .trackNumber))) ⟨s, ws'⟩ := by
  obtain ⟨ws', hused⟩ := usedValues_of_not_renderable (s := s) h (Field.mem_all _) ws
  refine ⟨ws', ?_⟩
  rw [render, bind_of_ok (readable_of_tag? hs ws)]
  simp only [fields_normalize]
  exact bind_of_error hused

/-- A rendering leaves the subject as it is and gives the tokens of the pattern, put into the mode:
literals as they stand, each placeholder of a field replaced by its value, in which nothing is
replaced again, and other placeholders unchanged. All fields of the pattern are required, and no
others. -/
theorem render_tokenwise (hs : s.tag? = some t) (p : Text) (mode : Value) :
    ∃ name ws, (Value.inCase (.text (nameOf t p)) mode).1 = .ok (.text name) ∧
      (render (.text p) mode).run s =
        (⟨if ¬ Renderable t (Pattern.fields p) then
            .error (.problem (.trackNumberUnrenderable (t.fieldText .trackNumber)))
          else if usedEmpty t (Pattern.fields p) Field.all ≠ [] then
            .error (.problem (.missingValues (usedEmpty t (Pattern.fields p) Field.all)))
          else .ok name, ws⟩, s) := by
  by_cases h : Renderable t (Pattern.fields p)
  · obtain ⟨name, hname, hrun⟩ := render_of_renderable hs h mode []
    have hnot := not_not_intro h
    by_cases hempty : usedEmpty t (Pattern.fields p) Field.all = []
    · rw [if_pos hempty] at hrun
      have hnone := not_not_intro hempty
      exact ⟨name, _, hname, (run_eq_ok_iff.2 hrun).trans (by rw [if_neg hnot, if_neg hnone])⟩
    · rw [if_neg hempty] at hrun
      exact ⟨name, _, hname, (run_eq_error_iff.2 hrun).trans (by rw [if_neg hnot, if_pos hempty])⟩
  · obtain ⟨ws, hrun⟩ := render_of_not_renderable hs h mode []
    obtain ⟨name, hname, -⟩ := inMode_run mode (nameOf t p) s []
    exact ⟨name, ws, hname, (run_eq_error_iff.2 hrun).trans (by rw [if_pos h])⟩

/-- The title is the name of another field, between brackets that make it a placeholder. -/
theorem render_tokenwise_brackets :
    let t := Tag.ofTexts fun
      | .title => "ARTIST".toList
      | .artist => "Maiden".toList
      | _ => []
    ∃ ws, (render (.text "((((title)))) - ((TITLE)) ((ignore))".toList) .null).run (.readOnly t) =
      (⟨.ok "((ARTIST)) - ARTIST ((IGNORE))".toList, ws⟩, .readOnly t) := by
  intro t
  obtain ⟨name, ws, hname, hrun⟩ :=
    render_tokenwise (s := .readOnly t) rfl "((((title)))) - ((TITLE)) ((ignore))".toList .null
  have hgiven : nameOf t "((((title)))) - ((TITLE)) ((ignore))".toList =
      "((ARTIST)) - ARTIST ((IGNORE))".toList := by
    decide +kernel
  have hfields : Pattern.fields "((((title)))) - ((TITLE)) ((ignore))".toList = [.title] := by
    decide +kernel
  rw [hgiven] at hname
  cases hname
  rw [hfields, if_neg (by decide), if_neg (by decide)] at hrun
  exact ⟨ws, hrun⟩

end Edit

end NameTag
