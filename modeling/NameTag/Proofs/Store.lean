import NameTag.Store
import NameTag.Summary
import NameTag.Proofs.Edit
import NameTag.Proofs.Tag
import NameTag.Proofs.Text.Trim

/-!
# What storing does

`Tag.put` is the effect of storing a stripped text in a field of a tag whose values are texts, with
the text that is kept and the warnings. `storeText_textual`: storing is `put` where the field
accepts the text, and fails without a change where it does not.
-/

namespace NameTag

/-- Whether a field takes a stripped text at all. -/
def Field.accepts : Field → Text → Bool
  | .year, t => isYear t
  | .trackNumber, t => isTrackNumber t
  | _, _ => true

theorem Field.accepts_of_bounded {f : Field} (hf : f ≠ .year ∧ f ≠ .trackNumber) (s : Text) :
    f.accepts s = true := by
  cases f <;> simp_all [accepts]

theorem Field.year_or_trackNumber {f : Field} (hf : ¬ (f ≠ .year ∧ f ≠ .trackNumber)) :
    f = .year ∨ f = .trackNumber := by
  cases f <;> simp_all

/-- The problem with a text that the field does not accept. -/
def Field.refusal : Field → Problem
  | .year => .yearMalformed
  | _ => .trackNumberMalformed

theorem Value.shown_text (t : Text) : (Value.text t).shown = t := rfl

/-- The marker of a cut text as a setting: nothing or a text. -/
abbrev Value.ofMarker (marker : Option Text) : Value :=
  .ofOption .text marker

theorem Value.trimTo_ofMarker (marker : Option Text) (limit : Option Nat) (t : Text) :
    (Value.ofMarker marker).trimTo limit t = .ok (Text.trim t (limit.map Nat.cast) marker) := by
  cases limit with
  | none => rfl
  | some n =>
    rw [Option.map_some, Text.trim_some, Value.trimTo]
    split
    · cases marker <;> rfl
    · rfl

namespace Tag

/-- The text that is kept of a stripped text stored in a field. -/
def kept (marker : Option Text) (t : Tag) (f : Field) (s : Text) : Text :=
  match f with
  | .year | .trackNumber => s
  | _ => Text.trim s ((t.limit f).map Nat.cast) marker

theorem kept_of_bounded {marker : Option Text} {t : Tag} {f : Field}
    (hf : f ≠ .year ∧ f ≠ .trackNumber) {s : Text} :
    t.kept marker f s = Text.trim s ((t.limit f).map Nat.cast) marker := by
  cases f <;> simp_all [kept]

/-- A field keeps the text as it is or cut to the field's limit. -/
theorem kept_cases (marker : Option Text) (t : Tag) (f : Field) (s : Text) :
    t.kept marker f s = s ∨ t.kept marker f s = Text.trim s ((t.limit f).map Nat.cast) marker := by
  cases f with
  | year | trackNumber => exact .inl rfl
  | _ => exact .inr rfl

/-- The comment cut to what a track number leaves of it. -/
def shortenedComment (marker : Option Text) (t : Tag) : Text :=
  Text.trim (t.text .comment) (shortComment.map Nat.cast) marker

/-- The tag with its comment cut to make room for a track number. -/
def shortened (marker : Option Text) (t : Tag) : Tag :=
  if t.text .comment = [] then t else t.setText .comment (t.shortenedComment marker)

/-- The tag with a stripped text stored in a field that accepts it. -/
def put (marker : Option Text) (t : Tag) (f : Field) (s : Text) : Tag :=
  (if f = .trackNumber then t.shortened marker else t).setText f (t.kept marker f s)

/-- The warnings that storing gives. -/
def putWarnings (marker : Option Text) (t : Tag) (f : Field) (s : Text) : List Warning :=
  if f = .trackNumber then
    if t.shortenedComment marker ≠ t.text .comment then
      [.commentShrunk (t.shortenedComment marker)]
    else []
  else if t.kept marker f s ≠ s then [.truncated f (t.kept marker f s)]
  else []

variable {marker : Option Text} {t : Tag} {v : Field → Text}

theorem shortenedComment_of_empty (h : t.text .comment = []) : t.shortenedComment marker = [] := by
  rw [shortenedComment, h]
  rfl

theorem limit_pos (t : Tag) (f : Field) : ∀ n ∈ t.limit f, 0 < n := by
  unfold limit
  split
  · next h =>
    rw [h.1]
    decide
  · cases f <;> decide

theorem limit_eq (ht : t.Textual) (f : Field) :
    t.limit f = if f = .comment ∧ t.text .trackNumber ≠ [] then shortComment else f.maxLength := by
  simp only [limit, ht.isTrue_value]
  split
  · next h => rw [h.1]; rfl
  · rfl

theorem Textual.shortened (ht : t.Textual) : (t.shortened marker).Textual := by
  rw [Tag.shortened]
  split
  · exact ht
  · exact ht.setText _ _

theorem Textual.put (ht : t.Textual) (f : Field) (s : Text) : (t.put marker f s).Textual := by
  rw [Tag.put]
  split
  · exact ht.shortened.setText _ _
  · exact ht.setText _ _

theorem shortenedComment_ofTexts :
    (ofTexts v).shortenedComment marker =
      Text.trim (v .comment) (shortComment.map Nat.cast) marker := by
  rw [shortenedComment, text_ofTexts]

theorem shortened_ofTexts :
    (ofTexts v).shortened marker =
      ofTexts (Function.update v .comment ((ofTexts v).shortenedComment marker)) := by
  rw [shortened]
  split
  · next hc =>
    rw [shortenedComment_of_empty hc, ← hc, text_ofTexts, Function.update_eq_self]
  · rw [setText_ofTexts]

end Tag

namespace Edit

variable {marker : Option Text} {t : Tag} {ws : List Warning}

@[simp] theorem setField_run (f : Field) (s : Text) :
    setField f s ⟨.editable t, ws⟩ = .ok () ⟨.editable (t.setText f s), ws⟩ := rfl

theorem shrinkComment_textual (ht : t.Textual) :
    shrinkComment (.ofMarker marker) ⟨.editable t, ws⟩ =
      .ok () ⟨.editable (t.shortened marker), ws ++ t.putWarnings marker .trackNumber []⟩ := by
  rw [shrinkComment, bind_of_ok (editable_run t ws), Tag.shortened, Tag.putWarnings, if_pos rfl]
  have htrim : (Value.ofMarker marker).trimTo Tag.shortComment (t.text .comment) =
      .ok (t.shortenedComment marker) := Value.trimTo_ofMarker marker _ _
  by_cases he : t.text .comment = []
  · rw [he, Tag.shortenedComment_of_empty he]
    rcases ht.value_cases .comment with hv | ⟨hv, -⟩ <;> simp [hv, he, Value.isTrue]
  · have hv := (ht.value_cases .comment).resolve_right fun h => he h.2
    simp only [hv, Value.isTrue, List.isEmpty_eq_false_iff.2 he, if_neg he, Bool.not_false, if_true,
      htrim]
    rw [bind_of_ok (ofExcept_ok _ _), bind_of_ok (setField_run _ _)]
    by_cases hs : t.shortenedComment marker = t.text .comment
    · simp [hs]
    · simp [hs]

/-- A text field keeps what fits. -/
theorem storeText_eq_of_bounded {marker : Value} {f : Field} (hf : f ≠ .year ∧ f ≠ .trackNumber)
    {s : Text} :
    storeText marker f s = (do
      let stored ← ofExcept (marker.trimTo ((← editable).limit f) s)
      if stored ≠ s then warn (.truncated f stored)
      setField f stored
      pure stored) := by
  cases f <;> simp_all [storeText]

theorem storeText_bounded {f : Field} (hf : f ≠ .year ∧ f ≠ .trackNumber) (s : Text) :
    storeText (.ofMarker marker) f s ⟨.editable t, ws⟩ =
      .ok (t.kept marker f s) ⟨.editable (t.put marker f s), ws ++ t.putWarnings marker f s⟩ := by
  rw [storeText_eq_of_bounded hf, bind_of_ok (editable_run t ws), Value.trimTo_ofMarker,
    ← Tag.kept_of_bounded hf, bind_of_ok (ofExcept_ok _ _)]
  by_cases h : t.kept marker f s = s
  · simp [h, Tag.put, Tag.putWarnings, hf.2]
  · simp [h, Tag.put, Tag.putWarnings, hf.2]

/-- Storing a stripped text in a tag whose values are texts. -/
theorem storeText_textual (ht : t.Textual) (f : Field) (s : Text) :
    storeText (.ofMarker marker) f s ⟨.editable t, ws⟩ =
      if f.accepts s then
        .ok (t.kept marker f s) ⟨.editable (t.put marker f s), ws ++ t.putWarnings marker f s⟩
      else .error (.problem f.refusal) ⟨.editable t, ws⟩ := by
  by_cases hf : f ≠ .year ∧ f ≠ .trackNumber
  · rw [storeText_bounded hf, if_pos (Field.accepts_of_bounded hf s)]
  · rcases Field.year_or_trackNumber hf with rfl | rfl
    · cases h : isYear s <;>
        simp [storeText, Field.accepts, h, Field.refusal, Tag.kept, Tag.put, Tag.putWarnings]
    · have hw : t.putWarnings marker .trackNumber [] = t.putWarnings marker .trackNumber s := rfl
      cases h : isTrackNumber s <;>
        simp [storeText, Field.accepts, h, Field.refusal, Tag.kept, Tag.put,
          shrinkComment_textual ht, hw]

/-! ## Any tag and any marker -/

/-- Making room for a track number sets the comment, or changes nothing. -/
theorem shrinkComment_cases (marker : Value) (t : Tag) (ws : List Warning) :
    (∃ t' ws', shrinkComment marker ⟨.editable t, ws⟩ = .ok () ⟨.editable t', ws'⟩ ∧
      (t' = t ∨ ∃ s, t' = t.setText .comment s)) ∨
    ∃ e, shrinkComment marker ⟨.editable t, ws⟩ = .error e ⟨.editable t, ws⟩ := by
  rw [shrinkComment, bind_of_ok (editable_run t ws)]
  by_cases hc : (t.value .comment).isTrue = true
  · cases hv : t.value .comment with
    | text c =>
      rw [hv] at hc
      simp only [hc, if_true]
      cases hr : marker.trimTo Tag.shortComment c with
      | error e => exact .inr ⟨e, rfl⟩
      | ok r =>
        rw [bind_of_ok (ofExcept_ok _ _), bind_of_ok (setField_run _ _)]
        by_cases he : r = c
        · exact .inl ⟨_, ws, by simp [he], .inr ⟨c, rfl⟩⟩
        · exact .inl ⟨_, ws ++ [.commentShrunk r], by simp [he], .inr ⟨r, rfl⟩⟩
    | _ => exact .inr ⟨.fault .missingOperation, by simp_all⟩
  · exact .inl ⟨t, ws, by simp [hc], .inl rfl⟩

/-- Storing sets the field, and the comment before it, or changes nothing. -/
theorem storeText_cases (marker : Value) (f : Field) (s : Text) (t : Tag) (ws : List Warning) :
    (∃ t' r ws', storeText marker f s ⟨.editable t, ws⟩ = .ok r ⟨.editable (t'.setText f r), ws'⟩ ∧
      (t' = t ∨ ∃ c, t' = t.setText .comment c)) ∨
    ∃ e, storeText marker f s ⟨.editable t, ws⟩ = .error e ⟨.editable t, ws⟩ := by
  by_cases hf : f ≠ .year ∧ f ≠ .trackNumber
  · rw [storeText_eq_of_bounded hf, bind_of_ok (editable_run t ws)]
    cases hr : marker.trimTo (t.limit f) s with
    | error e => exact .inr ⟨e, rfl⟩
    | ok r =>
      rw [bind_of_ok (ofExcept_ok _ _)]
      by_cases he : r = s
      · exact .inl ⟨t, s, ws, by simp [he], .inl rfl⟩
      · exact .inl ⟨t, r, ws ++ [.truncated f r], by simp [he], .inl rfl⟩
  · rcases Field.year_or_trackNumber hf with rfl | rfl
    · cases h : isYear s
      · exact .inr ⟨.problem .yearMalformed, by simp [storeText, h]⟩
      · exact .inl ⟨t, s, ws, by simp [storeText, h], .inl rfl⟩
    · cases h : isTrackNumber s
      · exact .inr ⟨.problem .trackNumberMalformed, by simp [storeText, h]⟩
      · rcases shrinkComment_cases marker t ws with ⟨t', ws', hr, ht⟩ | ⟨e, hr⟩
        · exact .inl ⟨t', s, ws', by simp [storeText, h, hr], ht⟩
        · exact .inr ⟨e, by simp [storeText, h, hr]⟩

/-! ## Storing values under names -/

/-- A value is stored in a field as its text. -/
theorem store_shown (marker : Value) (f : Field) {value : Value} (h : value ≠ .null) :
    store marker (.text f.name) value ⟨.editable t, ws⟩ =
      storeText marker f (Text.strip value.shown) ⟨.editable t, ws⟩ := by
  cases value <;> simp_all [store, Field.ofName?_name]

theorem store_name (marker : Value) (f : Field) (v : Text) :
    store marker (.text f.name) (.text v) ⟨.editable t, ws⟩ =
      storeText marker f (Text.strip v) ⟨.editable t, ws⟩ :=
  store_shown marker f (by simp)

/-- A value is stored in a field as its text, or it is refused because there is no field or no
value. -/
theorem store_cases (marker field value : Value) (t : Tag) (ws : List Warning) :
    (∃ f : Field, field = .text f.name ∧ value ≠ .null ∧
      store marker field value ⟨.editable t, ws⟩ =
        storeText marker f (Text.strip value.shown) ⟨.editable t, ws⟩) ∨
    store marker field value ⟨.editable t, ws⟩ =
      .error (.problem .noFieldOrValue) ⟨.editable t, ws⟩ := by
  cases field with
  | text name =>
    by_cases hv : value = .null
    · right
      cases h : Field.ofName? name <;> simp [store, h, hv]
    · cases h : Field.ofName? name with
      | none => exact .inr (by simp [store, h])
      | some f =>
        obtain rfl := Field.ofName?_eq_some.1 h
        exact .inl ⟨f, rfl, hv, store_shown marker f hv⟩
  | _ => exact .inr (by simp [store])

/-- A value is stored in a tag of texts if there is a field that accepts its text; otherwise the
problem is all that the store gives. -/
theorem store_textual (marker : Option Text) (ht : t.Textual) (field value : Value)
    (ws : List Warning) :
    (∃ f : Field, field = .text f.name ∧ value ≠ .null ∧
      f.accepts (Text.strip value.shown) = true ∧
      store (.ofMarker marker) field value ⟨.editable t, ws⟩ =
        .ok (t.kept marker f (Text.strip value.shown))
          ⟨.editable (t.put marker f (Text.strip value.shown)),
            ws ++ t.putWarnings marker f (Text.strip value.shown)⟩) ∨
    ∃ p, store (.ofMarker marker) field value ⟨.editable t, ws⟩ =
      .error (.problem p) ⟨.editable t, ws⟩ := by
  rcases store_cases (.ofMarker marker) field value t ws with ⟨f, hf, hv, hs⟩ | hs
  · rw [hs, storeText_textual ht]
    by_cases hacc : f.accepts (Text.strip value.shown) = true
    · exact .inl ⟨f, hf, hv, hacc, by rw [if_pos hacc]⟩
    · exact .inr ⟨f.refusal, by rw [if_neg hacc]⟩
  · exact .inr ⟨.noFieldOrValue, hs⟩

theorem store_eq_ok_iff (ht : t.Textual) {field value : Value} {r : Text} {d' : Draft} :
    store (.ofMarker marker) field value ⟨.editable t, ws⟩ = .ok r d' ↔
      ∃ f : Field, field = .text f.name ∧ value ≠ .null ∧
        f.accepts (Text.strip value.shown) = true ∧ r = t.kept marker f (Text.strip value.shown) ∧
        d' = ⟨.editable (t.put marker f (Text.strip value.shown)),
          ws ++ t.putWarnings marker f (Text.strip value.shown)⟩ := by
  constructor
  · intro h
    rcases store_textual marker ht field value ws with ⟨f, hf, hv, hacc, hs⟩ | ⟨p, hs⟩
    · rw [hs] at h
      cases h
      exact ⟨f, hf, hv, hacc, rfl, rfl⟩
    · rw [hs] at h
      cases h
  · rintro ⟨f, rfl, hv, hacc, rfl, rfl⟩
    rw [store_shown _ f hv, storeText_textual ht, if_pos hacc]

end Edit

end NameTag
