import NameTag.Proofs.Extract.Closed
import NameTag.Proofs.Session
import NameTag.Proofs.Valid

/-!
# Reachable tags

A tag that is built empty, from frames or from assignments, and then changed by any sequence of
stores and extractions in any sessions, is valid (`Session.Reachable.valid`).
-/

namespace NameTag

namespace Tag

/-- What runs keep: the tag holds valid texts and nothing else and, where `tidy` holds, none of them
ends with a blank. -/
def Sound (tidy : Prop) (t : Tag) : Prop :=
  ∃ v, t = ofTexts v ∧ ValidTexts v ∧ (tidy → ∀ f, (v f).RightStripped)

variable {tidy : Prop} {t copy : Tag}

theorem sound_empty : empty.Sound tidy :=
  ⟨_, empty_eq_ofTexts, validTexts_empty, fun _ _ => Text.rightStripped_nil⟩

theorem Sound.update (ht : t.Sound tidy) (hc : copy.Sound tidy) :
    (t.update copy.entries).Sound tidy := by
  obtain ⟨v, rfl, -⟩ := ht
  obtain ⟨w, rfl, hw⟩ := hc
  have hext : (ofTexts w).Extends (ofTexts v) := ⟨List.prefix_rfl, nodup_keys_ofTexts w⟩
  rw [update_eq_of_extends hext]
  exact ⟨w, rfl, hw⟩

end Tag

namespace Edit

variable {tidy : Prop} {marker : Option Text}

theorem keeps_storeText (hm : tidy → Text.ProperMarker marker) (f : Field) {s : Text}
    (hs : Text.strip s = s) : Keeps (Tag.Sound tidy) (storeText (.ofMarker marker) f s) := by
  have hrun : ∀ v ws, storeText (.ofMarker marker) f s ⟨.editable (.ofTexts v), ws⟩ = _ :=
    fun v ws => storeText_textual (Tag.textual_ofTexts v) f s
  constructor
  · rintro ⟨_, ws⟩ a d' ⟨_, rfl, v, rfl, hv, hr⟩ h
    rw [hrun] at h
    split at h
    · next hf =>
      cases h
      obtain ⟨w, he, hw, hwr⟩ := Tag.put_ofTexts marker hv hf hs
      exact ⟨_, rfl, w, he, hw, fun hp => hwr (hm hp) (hr hp)⟩
    · cases h
  · rintro ⟨_, ws⟩ e d' ⟨_, rfl, v, rfl, hv, hr⟩ h
    rw [hrun] at h
    split at h
    · cases h
    · cases h
      exact ⟨_, rfl, v, rfl, hv, hr⟩

theorem closed_keeps (P : Tag → Prop) : Closed fun {α} => @Keeps α P where
  pure := keeps_pure
  problem p := keeps_throw (.problem p)
  editable := keeps_editable
  bind := Keeps.bind

theorem keeps_store (hm : tidy → Text.ProperMarker marker) (field value : Value) :
    Keeps (Tag.Sound tidy) (store (.ofMarker marker) field value) :=
  (closed_keeps _).store (fun f v => keeps_storeText hm f (Text.strip_strip v)) field value

theorem keeps_extract (hm : tidy → Text.ProperMarker marker) (source pattern mode weed : Value) :
    Keeps (Tag.Sound tidy) (extract (.ofMarker marker) source pattern mode weed) :=
  (closed_keeps _).extract (fun f v => keeps_storeText hm f (Text.strip_strip v))
    (fun hbody => hbody.onCopy Tag.Sound.update) (fun e _ => keeps_throw e) source pattern mode

/-! ## Frames -/

theorem keeps_readField (hm : tidy → Text.ProperMarker marker) (frames : List Frame) (f : Field) :
    Keeps (Tag.Sound tidy) (readField (.ofMarker marker) frames f) := by
  unfold readField
  refine (keeps_ofExcept _).bind fun first => ?_
  cases first with
  | none => exact keeps_pure ()
  | some raw =>
    refine Keeps.tryCatch ?_ fun e => ?_
    · exact (keeps_storeText hm f (Text.strip_strip _)).bind fun _ => keeps_pure ()
    · cases e with
      | problem p => exact (keeps_warn _).ite (keeps_throw _)
      | fault e => exact keeps_throw _

theorem keeps_readFields (hm : tidy → Text.ProperMarker marker) (frames : List Frame)
    (fields : List Field) :
    Keeps (Tag.Sound tidy) (readFields (.ofMarker marker) frames fields) := by
  induction fields with
  | nil => exact keeps_pure ()
  | cons f fields ih => exact (keeps_readField hm frames f).bind fun _ => ih

/-- A tag read from frames is sound. -/
theorem sound_readFrames (hm : tidy → Text.ProperMarker marker) {source : FrameSource} {t : Tag}
    {ws : List Warning} (h : readFrames (.ofMarker marker) source = ⟨.ok t, ws⟩) :
    t.Sound tidy := by
  cases source with
  | other => cases h
  | frames frames =>
    rw [readFrames] at h
    have hrun := run_eq_ok_iff.1 (Prod.ext_iff.2 ⟨h, rfl⟩)
    obtain ⟨_, ⟨subject, ws₁⟩, hread, hlook⟩ := bind_eq_ok_iff.1 hrun
    obtain ⟨t₁, hs, ht⟩ := (keeps_readFields hm frames Field.all).ok ⟨_, rfl, Tag.sound_empty⟩ hread
    subst hs
    obtain ⟨rfl, -⟩ := EStateM.Result.ok.inj hlook
    exact ht

end Edit

/-! ## Sessions -/

namespace Session

/-- The marker of the session is one of those allowed. -/
def InForce (allowed : Option Text → Prop) (s : Session) : Prop :=
  ∃ marker, s.settings.marker = .ofMarker marker ∧ allowed marker

/-- What becomes of a tag that is built empty, from frames or from assignments when values are
stored in it and names are extracted into it, each time in any session whose marker is allowed. -/
inductive Reachable (allowed : Option Text → Prop) : Subject → Prop
  | empty : Reachable allowed (.editable .empty)
  | ofFrames {s s' : Session} {source : FrameSource} {t : Tag} {ws : List Warning}
      (hs : s.InForce allowed) (h : tagFromFrames source s = (.ok ⟨.ok t, ws⟩, s')) :
      Reachable allowed (.editable t)
  | ofAssignments {s s' : Session} {assignments : Value} {t : Tag} (hs : s.InForce allowed)
      (h : (Command.buildTag assignments).run s = (.ok t, s')) : Reachable allowed (.editable t)
  | setField {s : Session} {subject : Subject} (field value : Value) (hs : s.InForce allowed)
      (h : Reachable allowed subject) : Reachable allowed (setField subject field value s).1.2
  | parse {s : Session} {subject : Subject} (source pattern mode weed : Value)
      (hs : s.InForce allowed) (h : Reachable allowed subject) :
      Reachable allowed (parse subject source pattern mode weed s).1.2

variable {allowed : Option Text → Prop} {s s' : Session} {t : Tag}

/-- No marker that is allowed is empty or ends with a blank. -/
def Tidy (allowed : Option Text → Prop) : Prop :=
  ∀ marker, allowed marker → Text.ProperMarker marker

theorem setField_sound (hs : s.InForce allowed) (field value : Value)
    (ht : t.Sound (Tidy allowed)) :
    ∃ t', (setField (.editable t) field value s).1.2 = .editable t' ∧ t'.Sound (Tidy allowed) := by
  obtain ⟨marker, hmarker, hm⟩ := hs
  rw [setField, perform_subject, hmarker]
  exact (Edit.keeps_store (fun h => h marker hm) field value).run ht

theorem parse_sound (hs : s.InForce allowed) (source pattern mode weed : Value)
    (ht : t.Sound (Tidy allowed)) :
    ∃ t', (parse (.editable t) source pattern mode weed s).1.2 = .editable t' ∧
      t'.Sound (Tidy allowed) := by
  obtain ⟨marker, hmarker, hm⟩ := hs
  rw [parse, perform_subject, hmarker]
  exact (Edit.keeps_extract (fun h => h marker hm) source pattern mode weed).run ht

theorem tagFromFrames_sound {source : FrameSource} {ws : List Warning} (hs : s.InForce allowed)
    (h : tagFromFrames source s = (.ok ⟨.ok t, ws⟩, s')) : t.Sound (Tidy allowed) := by
  obtain ⟨marker, hmarker, hm⟩ := hs
  have hread : (conclude (readFrames s.settings.marker source) s).1 = .ok ⟨.ok t, ws⟩ :=
    congrArg Prod.fst h
  rw [hmarker] at hread
  exact Edit.sound_readFrames (fun h => h marker hm) (conclude_eq_ok hread)

end Session

namespace Command

open Session

variable {allowed : Option Text → Prop} {s s' : Session} {t : Tag}

theorem assignAll_sound {exprs : List Value} {subject : Subject} (hs : s.InForce allowed)
    (ht : t.Sound (Tidy allowed)) (h : (assignAll (.editable t) exprs).run s = (.ok subject, s')) :
    ∃ t', subject = .editable t' ∧ t'.Sound (Tidy allowed) := by
  induction exprs generalizing t s with
  | nil =>
    cases h
    exact ⟨t, rfl, ht⟩
  | cons expr exprs ih =>
    rw [assignAll_cons] at h
    split at h
    · cases h
    · next f value _ =>
      obtain ⟨t₁, hafter, ht₁⟩ := setField_sound hs (.text f.name) (.text value) ht
      have hsettings := perform_settings
        (fun marker => Edit.store marker (.text f.name) (.text value)) (.editable t) s
      have hs₁ : (setField (.editable t) (.text f.name) (.text value) s).2.InForce allowed := by
        rw [InForce, setField, hsettings]
        exact hs
      split at h
      · cases h
      · next report after s₁ hset =>
        rw [hset] at hafter hs₁
        subst hafter
        split at h
        · cases h
        · exact ih hs₁ ht₁ h

theorem buildTag_sound {assignments : Value} (hs : s.InForce allowed)
    (h : (buildTag assignments).run s = (.ok t, s')) : t.Sound (Tidy allowed) := by
  rw [buildTag_run] at h
  split at h
  · cases h
  · split at h
    · next exprs _ subject s₁ hall =>
      obtain ⟨t₁, rfl, ht₁⟩ := assignAll_sound hs Tag.sound_empty hall
      cases h
      exact ht₁
    · cases h

end Command

namespace Session

variable {allowed : Option Text → Prop} {subject : Subject}

theorem Reachable.sound (h : Reachable allowed subject) :
    ∃ t, subject = .editable t ∧ t.Sound (Tidy allowed) := by
  induction h with
  | empty => exact ⟨_, rfl, Tag.sound_empty⟩
  | ofFrames hs h => exact ⟨_, rfl, tagFromFrames_sound hs h⟩
  | ofAssignments hs h => exact ⟨_, rfl, Command.buildTag_sound hs h⟩
  | setField field value hs _ ih =>
    obtain ⟨t, rfl, ht⟩ := ih
    exact setField_sound hs field value ht
  | parse source pattern mode weed hs _ ih =>
    obtain ⟨t, rfl, ht⟩ := ih
    exact parse_sound hs source pattern mode weed ht

/-- Every reachable tag holds valid texts and nothing else. If no marker that was allowed is empty
or ends with a blank, no text ends with a blank. -/
theorem Reachable.valid (h : Reachable allowed subject) :
    ∃ v, subject = .editable (.ofTexts v) ∧ ValidTexts v ∧
      ((∀ marker, allowed marker → Text.ProperMarker marker) → ∀ f, (v f).RightStripped) := by
  obtain ⟨t, rfl, v, rfl, hv, hr⟩ := h.sound
  exact ⟨v, rfl, hv, hr⟩

/-- A comment that is cut with a marker makes room for a track number without one. -/
theorem valid_comment_beside_number :
    let marked : Session := { settings := { marker := .text "..".toList } }
    let commented := (setField (.editable .empty) (.text "COMMENT".toList)
      (.text (List.replicate 40 'c')) marked).1.2
    ∃ v, (setField commented (.text "TRACKNUM".toList) (.text "7".toList) {}).1.2 =
        .editable (.ofTexts v) ∧ ValidTexts v ∧ ∀ f, (v f).RightStripped := by
  intro marked commented
  have hreach : Reachable (fun marker => marker = none ∨ marker = some "..".toList)
      (setField commented (.text "TRACKNUM".toList) (.text "7".toList) {}).1.2 :=
    .setField _ _ ⟨none, rfl, .inl rfl⟩
      (.setField _ _ ⟨some "..".toList, rfl, .inr rfl⟩ .empty)
  obtain ⟨v, he, hv, hr⟩ := hreach.valid
  refine ⟨v, he, hv, hr ?_⟩
  rintro marker (rfl | rfl) m hm
  · cases hm
  · cases hm
    exact ⟨by decide, by intro c hc; cases hc; decide⟩

end Session

end NameTag
