import NameTag.Proofs.Render.Reachable

/-!
# Values that fill their fields

A store cuts a text to the limit of its field, which for a comment depends on the track number. A
rendering warns of values that fill their fields, but measures each value against its field alone,
and without the blanks at its ends. So it warns of the full values of a reachable tag
(`Session.render_warns_of_full`), save for a comment beside a track number, which always has two
characters left, and for a value that a marker left with a blank at its end.
-/

namespace NameTag

variable {v : Field → Text} {f : Field} {t : Text}

theorem fills_iff (hf : f ∈ [Field.title, .artist, .album, .comment]) (t : Text) :
    fills f t = true ↔ t.length = 30 := by
  have hmax : f ≠ .year ∧ f.maxLength = some 30 := by
    revert hf
    cases f <;> decide
  rw [fills, Bool.and_eq_true, bne_iff_ne, beq_iff_eq, hmax.2, Option.some.injEq]
  exact (and_iff_right hmax.1).trans eq_comm

namespace Edit

variable {used fields : List Field}

/-- The fields that are used and filled get a warning each, with their values. -/
theorem mem_fillWarnings :
    .maxLengthReached f t ∈ fillWarnings v used fields ↔
      (f ∈ fields ∧ f ∈ used ∧ fills f (v f) = true) ∧ t = v f := by
  simp only [fillWarnings, List.mem_map, List.mem_filter, Bool.and_eq_true, decide_eq_true_eq,
    Warning.maxLengthReached.injEq]
  constructor
  · rintro ⟨g, hg, rfl, rfl⟩
    exact ⟨hg, rfl⟩
  · rintro ⟨hf, rfl⟩
    exact ⟨f, hf, rfl, rfl⟩

/-- The warning of a case mode does not speak of lengths. -/
theorem maxLengthReached_notMem_inCase (name : Text) (mode : Value) :
    .maxLengthReached f t ∉ (Value.inCase (.text name) mode).2 := by
  cases mode with
  | null => exact List.not_mem_nil
  | _ =>
    simp only [Value.inCase]
    split <;> simp

end Edit

/-- The most characters that a store leaves of a text. -/
theorem Tag.limit_ofTexts (hf : f ∈ [Field.title, .artist, .album, .comment]) :
    (ofTexts v).limit f = some (if f = .comment ∧ v .trackNumber ≠ [] then 28 else 30) := by
  have hmax : f.maxLength = some 30 := by
    revert hf
    cases f <;> decide
  rw [limit_eq (textual_ofTexts v), text_ofTexts]
  split
  · rfl
  · exact hmax

/-- Stripping leaves a valid text its length exactly if it does not end with a blank. -/
theorem ValidTexts.length_strip_eq_iff (hv : ValidTexts v) (f : Field) :
    (Text.strip (v f)).length = (v f).length ↔ (v f).RightStripped := by
  constructor
  · intro hlength
    have hprefix : Text.strip (v f) <+: v f := by
      rw [Text.strip, Text.stripLeft_eq_self_iff.2 (hv.leftStripped f)]
      exact Text.stripRight_isPrefix _
    rw [← hprefix.eq_of_length hlength]
    exact Text.rightStripped_strip _
  · intro hright
    rw [Text.strip_eq_self_iff.2 ⟨hv.leftStripped f, hright⟩]

namespace Session

variable {allowed : Option Text → Prop} {subject : Subject}

/-- A rendering of a valid tag warns of the fields of the pattern that are filled. -/
theorem exists_render (hv : ValidTexts v) (p : Text) (mode : Value) (s : Session) :
    ∃ report, (render (.editable (.ofTexts v)) (.text p) mode s).1 = .ok report ∧
      ∀ f t, .maxLengthReached f t ∈ report.warnings ↔
        (f ∈ Pattern.fields p ∧ fills f (Text.strip (v f)) = true) ∧ t = Text.strip (v f) := by
  have htext : (Tag.ofTexts v).fieldText = fun f => Text.strip (v f) := by
    funext f
    rw [Tag.fieldText, Tag.value_ofTexts]
    rfl
  have hfill : ∀ f t, .maxLengthReached f t ∈
      Edit.fillWarnings (Tag.ofTexts v).fieldText (Pattern.fields p) Field.all ↔
        (f ∈ Pattern.fields p ∧ fills f (Text.strip (v f)) = true) ∧ t = Text.strip (v f) := by
    intro f t
    rw [Edit.mem_fillWarnings, htext, and_iff_right (Field.mem_all f)]
  obtain ⟨name, -, hrun⟩ := Edit.render_of_renderable (s := .editable (.ofTexts v)) rfl
    (Edit.renderable_of_valid hv hv.fieldText_trackNumber (Pattern.fields p)) mode []
  rw [render_run]
  split_ifs at hrun with hnone
  · rw [Edit.run_eq_ok_iff.2 hrun]
    refine ⟨_, rfl, fun f t => ?_⟩
    rw [List.nil_append, List.mem_append, hfill]
    exact or_iff_left (Edit.maxLengthReached_notMem_inCase _ _)
  · rw [Edit.run_eq_error_iff.2 hrun]
    exact ⟨_, rfl, hfill⟩

/-- Rendering a reachable tag warns of a text field of the pattern exactly if its value has 30
characters without blanks at its ends. So a value that fills the limit of its field is reported
unless it is a comment beside a track number, which is full with 28 characters, or ends with a blank,
which only a marker can leave there. -/
theorem render_warns_of_full (h : Reachable allowed subject) (p : Text) (mode : Value)
    (s : Session) :
    ∃ v report, subject = .editable (.ofTexts v) ∧
      (render subject (.text p) mode s).1 = .ok report ∧
      (Tidy allowed → ∀ f, (v f).RightStripped) ∧
      ∀ f ∈ [Field.title, .artist, .album, .comment], f ∈ Pattern.fields p →
        (∀ t, .maxLengthReached f t ∈ report.warnings ↔
          t.length = 30 ∧ t = Text.strip (v f)) ∧
        ((Tag.ofTexts v).limit f = some (v f).length →
          ((∃ t, .maxLengthReached f t ∈ report.warnings) ↔
            ¬ (f = .comment ∧ v .trackNumber ≠ []) ∧ (v f).RightStripped)) := by
  obtain ⟨_, rfl, v, rfl, hv, hright⟩ := h.sound
  obtain ⟨report, hrun, hwarns⟩ := exists_render hv p mode s
  refine ⟨v, report, rfl, hrun, hright, fun f hf hused => ?_⟩
  have hwarn : ∀ t, .maxLengthReached f t ∈ report.warnings ↔
      t.length = 30 ∧ t = Text.strip (v f) := by
    intro t
    rw [hwarns, fills_iff hf, and_iff_right hused]
    exact and_congr_left fun ht => by rw [ht]
  refine ⟨hwarn, fun hfull => ?_⟩
  have hsome : (∃ t, .maxLengthReached f t ∈ report.warnings) ↔
      (Text.strip (v f)).length = 30 := by
    simp only [hwarn, exists_eq_right]
  rw [Tag.limit_ofTexts hf, Option.some.injEq] at hfull
  rw [hsome]
  by_cases hshort : f = .comment ∧ v .trackNumber ≠ []
  · -- two characters are missing to the maximum that the rendering looks for
    rw [if_pos hshort] at hfull
    have hle := Text.length_strip_le (v f)
    exact iff_of_false (by omega) fun hnot => hnot.1 hshort
  · rw [if_neg hshort] at hfull
    rw [and_iff_right hshort, ← hv.length_strip_eq_iff, ← hfull]

/-- A title that was cut is reported; the comment that was cut for the track number is not. -/
theorem render_warns_of_full_title :
    let titled := (setField (.editable .empty) (.text Field.title.name)
      (.text (List.replicate 40 't')) {}).1.2
    let commented := (setField titled (.text Field.comment.name)
      (.text (List.replicate 40 'c')) {}).1.2
    let numbered := (setField commented (.text Field.trackNumber.name) (.int 7) {}).1.2
    ∃ report, (render numbered (.text "((TITLE)) - ((COMMENT))".toList) .null {}).1 = .ok report ∧
      .maxLengthReached .title (List.replicate 30 't') ∈ report.warnings ∧
      ∀ t, .maxLengthReached .comment t ∉ report.warnings := by
  intro titled commented numbered
  have hin : ({} : Session).InForce (· = none) := ⟨none, rfl, rfl⟩
  have hreach : Reachable (· = none) numbered :=
    .setField _ _ hin (.setField _ _ hin (.setField _ _ hin .empty))
  obtain ⟨v, report, hsubject, hrun, -, hfull⟩ :=
    render_warns_of_full hreach "((TITLE)) - ((COMMENT))".toList .null {}
  have hfields : Pattern.fields "((TITLE)) - ((COMMENT))".toList = [.title, .comment] := by
    decide +kernel
  have hnumbered : numbered = .editable (.ofTexts fun
      | .title => List.replicate 30 't'
      | .comment => List.replicate 28 'c'
      | .trackNumber => "7".toList
      | _ => []) := rfl
  rw [hnumbered, Subject.editable.injEq] at hsubject
  have htext := fun f => congrArg (Tag.text · f) hsubject
  simp only [Tag.text_ofTexts] at htext
  rw [hfields] at hfull
  obtain ⟨htitle, -⟩ := hfull .title (by decide) (by decide)
  obtain ⟨hcomment, -⟩ := hfull .comment (by decide) (by decide)
  refine ⟨report, hrun, (htitle _).2 ⟨rfl, ?_⟩, fun t ht => ?_⟩
  · rw [← htext]
    rfl
  · obtain ⟨hlength, rfl⟩ := (hcomment t).1 ht
    rw [← htext] at hlength
    exact absurd hlength (by decide)

/-- A comment that a track number cut to all the characters it may have is rendered without a
warning. -/
theorem render_full_comment :
    let commented := (setField (.editable .empty) (.text Field.comment.name)
      (.text (List.replicate 40 'c')) {}).1.2
    let numbered := (setField commented (.text Field.trackNumber.name) (.int 7) {}).1.2
    ∃ t, Reachable (· = none) numbered ∧ numbered = .editable t ∧
      t.value .comment = .text (List.replicate 28 'c') ∧ t.limit .comment = some 28 ∧
      Field.comment ∈ Pattern.fields "((COMMENT))".toList ∧
      (render numbered (.text "((COMMENT))".toList) .null {}).1 =
        .ok ⟨.ok (List.replicate 28 'c'), []⟩ := by
  intro commented numbered
  have hin : ({} : Session).InForce (· = none) := ⟨none, rfl, rfl⟩
  exact ⟨_, .setField _ _ hin (.setField _ _ hin .empty), rfl, rfl, rfl, by decide +kernel, rfl⟩

end Session

end NameTag
