import NameTag.Proofs.Extract.Closed
import NameTag.Render

/-!
# Extractions and renderings without faults

Where every value of the tag is a text and the marker is nothing or a text, storing ends in a result
or a problem (`Edit.Faultless`). So does an extraction, unless compiling its weed ends in a fault. A
rendering always does.
-/

namespace NameTag

namespace Tag

/-- There are only texts in the tag, also under names that stand there twice. -/
def HoldsTexts (t : Tag) : Prop :=
  ∀ e ∈ t.entries, ∃ s, e.2 = .text s

variable {t copy : Tag} {marker : Option Text}

theorem HoldsTexts.textual (ht : t.HoldsTexts) : t.Textual :=
  textual_of_entries ht

theorem holdsTexts_empty : empty.HoldsTexts := by
  intro e he
  obtain ⟨f, -, rfl⟩ := List.mem_map.1 he
  exact ⟨[], rfl⟩

theorem mem_setEntry {key : Text} {v : Value} {l : List (Text × Value)} {e : Text × Value}
    (h : e ∈ setEntry key v l) : e = (key, v) ∨ e ∈ l := by
  induction l with
  | nil => exact .inl (List.mem_singleton.1 h)
  | cons a l ih =>
    rw [setEntry] at h
    split at h
    · next hk =>
      rcases List.mem_cons.1 h with rfl | h
      · exact .inl (by rw [hk])
      · exact .inr (List.mem_cons_of_mem _ h)
    · rcases List.mem_cons.1 h with rfl | h
      · exact .inr List.mem_cons_self
      · exact (ih h).imp_right (List.mem_cons_of_mem _)

theorem HoldsTexts.set (ht : t.HoldsTexts) (key s : Text) : (t.set key (.text s)).HoldsTexts := by
  intro e he
  rcases mem_setEntry he with rfl | he
  · exact ⟨s, rfl⟩
  · exact ht e he

theorem HoldsTexts.update (ht : t.HoldsTexts) (hc : copy.HoldsTexts) :
    (t.update copy.entries).HoldsTexts := by
  obtain ⟨entries⟩ := copy
  induction entries generalizing t with
  | nil => exact ht
  | cons e entries ih =>
    obtain ⟨s, hs⟩ := hc e List.mem_cons_self
    have hset : (t.set e.1 e.2).HoldsTexts := hs ▸ ht.set e.1 s
    exact ih hset fun e' he => hc e' (List.mem_cons_of_mem _ he)

theorem HoldsTexts.put (ht : t.HoldsTexts) (f : Field) (s : Text) :
    (t.put marker f s).HoldsTexts := by
  rw [Tag.put]
  split
  · rw [shortened]
    split
    · exact ht.set f.name _
    · exact (ht.set Field.comment.name _).set f.name _
  · exact ht.set f.name _

end Tag

namespace Edit

variable {α β : Type} {P : Tag → Prop} {x : Edit α} {f : α → Edit β}

/-- On tags with the property the edit keeps it and ends in a result or a problem. -/
structure Faultless (P : Tag → Prop) (x : Edit α) : Prop extends Keeps P x where
  problem : ∀ {d e d'}, d.Holds P → x d = .error e d' → ∃ p, e = .problem p

theorem Faultless.bind (hx : Faultless P x) (hf : ∀ a, Faultless P (f a)) :
    Faultless P (x >>= f) where
  toKeeps := hx.toKeeps.bind fun a => (hf a).toKeeps
  problem := by
    intro d e d' hd h
    cases hx₁ : x d with
    | ok a d₁ =>
      rw [bind_of_ok hx₁] at h
      exact (hf a).problem (hx.ok hd hx₁) h
    | error e₁ d₁ =>
      rw [bind_of_error hx₁] at h
      cases h
      exact hx.problem hd hx₁

theorem Faultless.onCopy (hx : Faultless P x)
    (hP : ∀ {t copy : Tag}, P t → P copy → P (t.update copy.entries)) :
    Faultless P (onCopy x) where
  toKeeps := hx.toKeeps.onCopy hP
  problem := by
    intro d e d' hd h
    rw [Edit.onCopy] at h
    cases hx₁ : x d with
    | ok a d₁ =>
      rw [hx₁] at h
      simp only at h
      split at h <;> cases h
    | error e₁ d₁ =>
      rw [hx₁] at h
      cases h
      exact hx.problem hd hx₁

theorem closed_faultless (P : Tag → Prop) : Closed fun {α} => @Faultless α P where
  pure a := ⟨keeps_pure a, fun _ h => by cases h⟩
  problem p := ⟨keeps_throw _, fun _ h => ⟨p, by cases h; rfl⟩⟩
  editable := ⟨keeps_editable, by
    rintro ⟨_, ws⟩ e d' ⟨t, rfl, ht⟩ h
    cases h⟩
  bind := Faultless.bind

theorem faultless_storeText (marker : Option Text) (f : Field) (s : Text) :
    Faultless Tag.HoldsTexts (storeText (.ofMarker marker) f s) where
  ok := by
    rintro ⟨_, ws⟩ a d' ⟨t, rfl, ht⟩ h
    rw [storeText_textual ht.textual] at h
    split at h
    · cases h
      exact ⟨_, rfl, ht.put f s⟩
    · cases h
  error := by
    rintro ⟨_, ws⟩ e d' ⟨t, rfl, ht⟩ h
    rw [storeText_textual ht.textual] at h
    split at h
    · cases h
    · cases h
      exact ⟨t, rfl, ht⟩
  problem := by
    rintro ⟨_, ws⟩ e d' ⟨t, rfl, ht⟩ h
    rw [storeText_textual ht.textual] at h
    split at h
    · cases h
    · cases h
      exact ⟨f.refusal, rfl⟩

/-- An extraction on a tag of texts ends in a result or a problem if compiling its weed does. -/
theorem faultless_extract (marker : Option Text) {weed : Value}
    (hw : ∀ f, Weed.compile weed ≠ .error (.fault f)) (source pattern mode : Value) :
    Faultless Tag.HoldsTexts (extract (.ofMarker marker) source pattern mode weed) := by
  refine (closed_faultless _).extract (fun f v => faultless_storeText marker f _)
    (fun hbody => hbody.onCopy Tag.HoldsTexts.update) (fun e he => ?_) source pattern mode
  cases e with
  | problem p => exact (closed_faultless _).problem p
  | fault f => exact absurd he (hw f)

/-! ## Renderings -/

theorem faultless_readable (P : Tag → Prop) : Faultless P readable where
  ok := by
    rintro ⟨_, ws⟩ a d' ⟨t, rfl, ht⟩ h
    cases h
    exact ⟨a, rfl, ht⟩
  error := by
    rintro ⟨_, ws⟩ e d' ⟨t, rfl, ht⟩ h
    cases h
  problem := by
    rintro ⟨_, ws⟩ e d' ⟨t, rfl, ht⟩ h
    cases h

theorem faultless_warn (P : Tag → Prop) (w : Warning) : Faultless P (warn w) where
  toKeeps := keeps_warn w
  problem := by
    intro d e d' _ h
    cases h

/-- A value is written as it is, or as a track number, before what follows. -/
theorem faultless_written (f : Field) (value : Text) {next : Text → Edit α}
    (h : ∀ written, Faultless P (next written)) :
    Faultless P (if f = .trackNumber then
      match renderTrackNumber? value with
      | some number => pure number >>= next
      | none => throw (.problem (.trackNumberUnrenderable value)) >>= next
    else pure value >>= next) := by
  have hP := closed_faultless P
  split
  · split
    · exact hP.bind (hP.pure _) h
    · exact hP.bind (hP.problem _) h
  · exact hP.bind (hP.pure _) h

theorem faultless_usedValues (P : Tag → Prop) (tag : Tag) (used fields : List Field) :
    Faultless P (usedValues tag used fields) := by
  have hP := closed_faultless P
  induction fields with
  | nil => exact hP.pure _
  | cons f rest ih =>
    unfold usedValues
    split
    · exact ih
    · simp only
      split
      · exact hP.bind ih fun _ => hP.pure _
      · have hvalue := faultless_written f (tag.fieldText f) fun written =>
          hP.bind ih fun found => hP.pure ((f, written) :: found.1, found.2)
        split
        · exact hP.bind (faultless_warn P _) fun _ => hvalue
        · exact hvalue

/-- The name is put into the mode; an unknown mode is warned of. -/
theorem faultless_inMode (P : Tag → Prop) (mode : Value) (name : Text) :
    Faultless P (match mode with
      | .null => pure name
      | mode =>
        match CaseMode.ofValue? mode with
        | some m => pure (Text.inCase m name)
        | none => do
          warn (.unknownCaseMode mode)
          pure name) := by
  have hP := closed_faultless P
  split
  · exact hP.pure _
  · split
    · exact hP.pure _
    · exact hP.bind (faultless_warn P _) fun _ => hP.pure _

/-- A rendering of a tag ends in a result or a problem. -/
theorem faultless_render (P : Tag → Prop) (pattern mode : Value) :
    Faultless P (render pattern mode) := by
  have hP := closed_faultless P
  refine hP.bind (faultless_readable P) fun tag => ?_
  split
  · refine hP.bind (faultless_usedValues P tag _ _) fun found => ?_
    obtain ⟨values, missing⟩ := found
    simp only
    split
    · exact hP.bind (hP.problem _) fun _ => faultless_inMode P mode _
    · exact faultless_inMode P mode _
  · exact hP.problem _

end Edit

end NameTag
