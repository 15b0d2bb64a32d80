import NameTag.Proofs.Render.Outcome
import NameTag.Proofs.Valid

/-!
# Rendering a valid tag

Along a pattern of fields that are not empty, a valid tag renders to the pattern with the value of
each field in its place (`render_run`).
-/

namespace NameTag

namespace Pattern

/-- The tokens with texts in place of the placeholders. -/
def fill (w : Field → Text) : List Token → Text
  | [] => []
  | .literal l :: ts => l ++ fill w ts
  | .placeholder name :: ts => valueAt w name ++ fill w ts

variable {w : Field → Text} {ts : List Token}

/-- Without placeholders of other names, filling is replacing. -/
theorem flatMap_replaced (w : Field → Text) (hall : OfFields ts) :
    ts.flatMap (replaced (valueOr w)) = fill w ts := by
  induction ts with
  | nil => rfl
  | cons token ts ih =>
    rw [List.flatMap_cons, ih hall.tail]
    cases token with
    | literal l => rfl
    | placeholder name =>
      obtain ⟨f, rfl⟩ := hall.head
      rw [replaced, valueOr_name, fill, valueAt_name]

theorem leftStripped_fill (hall : OfFields ts)
    (hw : ∀ f : Field, f.name ∈ placeholders ts → w f ≠ [] ∧ Text.strip (w f) = w f)
    (h : Text.LeftStripped (unparse ts)) : Text.LeftStripped (fill w ts) := by
  induction ts with
  | nil => exact h
  | cons t ts ih =>
    cases t with
    | literal l =>
      have hl : Text.LeftStripped (l ++ unparse ts) := h
      by_cases he : l = []
      · rw [he] at hl ⊢
        exact ih hall.tail hw hl
      · exact (hl.of_isPrefix (List.prefix_append _ _)).append he
    | placeholder name =>
      obtain ⟨f, rfl⟩ := hall.head
      obtain ⟨hne, hs⟩ := hw f List.mem_cons_self
      rw [fill, valueAt_name]
      exact (Text.strip_eq_self_iff.1 hs).1.append hne

theorem fill_ne_nil (hall : OfFields ts)
    (hw : ∀ f : Field, f.name ∈ placeholders ts → w f ≠ []) (h : unparse ts ≠ []) :
    fill w ts ≠ [] := by
  induction ts with
  | nil => exact absurd rfl h
  | cons t ts ih =>
    cases t with
    | literal l =>
      by_cases hl : l = []
      · rw [hl] at h ⊢
        exact ih hall.tail hw h
      · exact List.append_ne_nil_of_left_ne_nil hl _
    | placeholder name =>
      obtain ⟨f, rfl⟩ := hall.head
      rw [fill, valueAt_name]
      exact List.append_ne_nil_of_left_ne_nil (hw f List.mem_cons_self) _

theorem fill_eq_nil (h : unparse ts = []) : fill w ts = [] := by
  induction ts with
  | nil => rfl
  | cons t ts ih =>
    cases t with
    | literal l =>
      obtain ⟨hl, hts⟩ := List.append_eq_nil_iff.1 (show l ++ unparse ts = [] from h)
      rw [fill, hl, ih hts]
      rfl
    | placeholder name => cases h

theorem rightStripped_fill (hall : OfFields ts)
    (hw : ∀ f : Field, f.name ∈ placeholders ts → w f ≠ [] ∧ Text.strip (w f) = w f)
    (h : Text.RightStripped (unparse ts)) : Text.RightStripped (fill w ts) := by
  induction ts with
  | nil => exact h
  | cons t ts ih =>
    have hsplit : unparse (t :: ts) = t.written ++ unparse ts := rfl
    rw [hsplit] at h
    by_cases hts : unparse ts = []
    · -- the last text that is filled in is not followed by anything
      cases t with
      | literal l =>
        rw [hts, List.append_nil] at h
        rw [fill, fill_eq_nil hts, List.append_nil]
        exact h
      | placeholder name =>
        obtain ⟨f, rfl⟩ := hall.head
        rw [fill, fill_eq_nil hts, List.append_nil, valueAt_name]
        exact (Text.strip_eq_self_iff.1 (hw f List.mem_cons_self).2).2
    · rw [Text.rightStripped_append hts] at h
      have hw' : ∀ f : Field, f.name ∈ placeholders ts → w f ≠ [] ∧ Text.strip (w f) = w f := by
        intro f hf
        refine hw f ?_
        cases t with
        | literal l => exact hf
        | placeholder name => exact List.mem_cons_of_mem _ hf
      have hne := fill_ne_nil hall.tail (fun f hf => (hw' f hf).1) hts
      cases t with
      | literal l => exact (ih hall.tail hw' h).append hne
      | placeholder name => exact (ih hall.tail hw' h).append hne

/-- What is filled into a pattern without blanks at its ends has none. -/
theorem strip_fill {p : Text} (hp : Text.strip p = p) (hall : OfFields (tokens p))
    (hw : ∀ f : Field, f.name ∈ placeholders (tokens p) → w f ≠ [] ∧ Text.strip (w f) = w f) :
    Text.strip (fill w (tokens p)) = fill w (tokens p) := by
  obtain ⟨hl, hr⟩ := Text.strip_eq_self_iff.1 hp
  have hnormal := unparse_tokens p
  refine Text.strip_eq_self_iff.2 ⟨leftStripped_fill hall hw ?_, rightStripped_fill hall hw ?_⟩
  · rw [hnormal]
    exact leftStripped_normalize hl
  · rw [hnormal]
    exact rightStripped_normalize hr

end Pattern

variable {v : Field → Text}

theorem rendered_ne_nil {f : Field} (h : v f ≠ []) : rendered v f ≠ [] := by
  rw [rendered]
  split
  · exact List.append_ne_nil_of_right_ne_nil _ Nat.toDigits_ne_nil
  · exact h

theorem strip_rendered (hs : ∀ f, Text.strip (v f) = v f) (f : Field) :
    Text.strip (rendered v f) = rendered v f := by
  rw [rendered]
  split
  · exact Text.strip_of_isAsciiDigit Text.isAsciiDigit_ofNatPadded
  · exact hs f

/-- What is rendered of a valid tag could be stored in it. -/
theorem ValidTexts.rendered (hv : ValidTexts v) : ValidTexts (rendered v) := by
  have hsame : ∀ f, f ≠ .trackNumber → NameTag.rendered v f = v f := by
    intro f hf
    rw [NameTag.rendered, if_neg fun h => hf h.1]
  constructor
  · intro f hf
    have hne : f ≠ .trackNumber := by
      rintro rfl
      exact absurd hf (by decide)
    rw [hsame f hne]
    exact hv.text_le f hf
  · intro hn
    rw [hsame .comment (by decide)]
    refine hv.comment_le fun he => hn ?_
    rw [NameTag.rendered, if_neg fun h => h.2 he, he]
  · rw [hsame .year (by decide)]
    exact hv.year
  · rw [NameTag.rendered]
    split
    · next h =>
      have hn := hv.trackNumber.resolve_left h.2
      refine .inr ⟨Text.isAsciiDigit_ofNatPadded, ?_⟩
      rw [Text.decimalValue_ofNatPadded]
      exact hn.2
    · exact hv.trackNumber
  · intro f
    rw [NameTag.rendered]
    split
    · exact (Text.strip_eq_self_iff.1 (Text.strip_of_isAsciiDigit Text.isAsciiDigit_ofNatPadded)).1
    · exact hv.leftStripped f

theorem renderTrackNumber?_of_valid {t : Text} (h : isTrackNumber t = true) :
    renderTrackNumber? t = some (Text.ofNatPadded 2 (Text.decimalValue t)) := by
  obtain ⟨hd, hlow, hhigh⟩ := isTrackNumber_iff.1 h
  have hne : t.isEmpty = false := by
    rw [List.isEmpty_eq_false_iff]
    rintro rfl
    exact absurd hlow (by decide)
  have hdec : t.all isDecimalDigit = true := by
    rw [List.all_eq_true]
    intro c hc
    rw [isDecimalDigit, digitValue?_of_isAsciiDigit (hd c hc)]
    rfl
  have hlen : ¬ 3 < (t.dropWhile (· == '0')).length := by
    intro hl
    have := Text.le_decimalValue_of_length hd hl
    omega
  simp [renderTrackNumber?, hne, hdec, hlen, Text.decimalValue_dropWhile_zero]

namespace Edit

variable {t : Tag} {ws : List Warning}

theorem fieldText_of_value {f : Field} (ht : t.value f = .text (v f))
    (hs : Text.strip (v f) = v f) : t.fieldText f = v f := by
  rw [Tag.fieldText, ht]
  exact hs

theorem renderable_of_valid (hv : ValidTexts v) (ht : t.fieldText .trackNumber = v .trackNumber)
    (used : List Field) : Renderable t used := by
  intro _ hne
  rw [ht] at hne ⊢
  rw [renderTrackNumber?_of_valid (hv.trackNumber_iff.resolve_left hne)]
  exact Option.some_ne_none _

/-- A valid tag renders to the pattern with the values of its fields. -/
theorem render_run {p : Text} (ht : ∀ f, t.value f = .text (v f)) (hv : ValidTexts v)
    (hs : ∀ f, Text.strip (v f) = v f) (hall : Pattern.OfFields (Pattern.tokens p))
    (hne : ∀ f : Field, f.name ∈ Pattern.placeholders (Pattern.tokens p) → v f ≠ []) :
    render (.text p) .null ⟨.editable t, ws⟩ =
      .ok (Pattern.fill (rendered v) (Pattern.tokens p))
        ⟨.editable t, ws ++ fillWarnings v (Pattern.fields p) Field.all⟩ := by
  have htext : t.fieldText = v := by
    funext f
    exact fieldText_of_value (ht f) (hs f)
  have hempty : usedEmpty t (Pattern.fields p) Field.all = [] := by
    rw [usedEmpty, List.filter_eq_nil_iff, htext]
    intro f _ hf
    obtain ⟨hused, he⟩ := of_decide_eq_true hf
    exact hne f (Pattern.mem_fields.1 hused) he
  have hname : nameOf t p = Pattern.fill (rendered v) (Pattern.tokens p) := by
    rw [nameOf, htext, Pattern.flatMap_replaced _ hall]
  obtain ⟨name, hcase, hrun⟩ := render_of_renderable (s := .editable t) rfl
    (renderable_of_valid hv (congrFun htext _) (Pattern.fields p)) .null ws
  rw [hname] at hcase hrun
  cases hcase
  rw [hrun, if_pos hempty, htext]
  exact congrArg _ (congrArg _ (List.append_nil _))

end Edit

end NameTag
