import NameTag.Proofs.Store
import NameTag.Proofs.Text.Digit

/-!
# Valid tags

A valid tag holds a text in each field and nothing else: bounded texts, a year of four digits, a
track number from 1 to 255, no blank at the beginning of a text. Where there is a track number, the
comment leaves room for it. `Tag.put_ofTexts`: storing an accepted text keeps a tag valid.
-/

namespace NameTag

/-- Texts that the fields of a valid tag may hold. -/
structure ValidTexts (v : Field → Text) : Prop where
  text_le : ∀ f ∈ [Field.title, .artist, .album, .comment], (v f).length ≤ 30
  comment_le : v .trackNumber ≠ [] → (v .comment).length ≤ 28
  year : v .year = [] ∨ (v .year).length = 4 ∧ ∀ c ∈ v .year, isAsciiDigit c = true
  trackNumber : v .trackNumber = [] ∨ (∀ c ∈ v .trackNumber, isAsciiDigit c = true) ∧
    1 ≤ Text.decimalValue (v .trackNumber) ∧ Text.decimalValue (v .trackNumber) ≤ 255
  leftStripped : ∀ f, (v f).LeftStripped

theorem validTexts_empty : ValidTexts fun _ => [] where
  text_le := fun _ _ => Nat.zero_le _
  comment_le := fun _ => Nat.zero_le _
  year := .inl rfl
  trackNumber := .inl rfl
  leftStripped := fun _ => Text.leftStripped_nil

variable {v : Field → Text} {marker : Option Text} {f : Field} {s : Text}

theorem ValidTexts.year_iff (h : ValidTexts v) : v .year = [] ∨ isYear (v .year) = true := by
  rw [isYear_iff]
  exact h.year

theorem ValidTexts.trackNumber_iff (h : ValidTexts v) :
    v .trackNumber = [] ∨ isTrackNumber (v .trackNumber) = true := by
  rw [isTrackNumber_iff]
  exact h.trackNumber

/-- Texts stay valid when a field gets one that fits the field and the others. -/
theorem ValidTexts.update (h : ValidTexts v) (hs : s.LeftStripped)
    (htext : f ∈ [Field.title, .artist, .album, .comment] → s.length ≤ 30)
    (hcomment : f = .comment → v .trackNumber ≠ [] → s.length ≤ 28)
    (hyear : f = .year → isYear s = true)
    (htrack : f = .trackNumber → isTrackNumber s = true ∧ (v .comment).length ≤ 28) :
    ValidTexts (Function.update v f s) where
  text_le := by
    intro g hg
    rw [Function.update_apply]
    split
    · next hgf => exact htext (hgf ▸ hg)
    · exact h.text_le g hg
  comment_le := by
    intro ht
    rw [Function.update_apply] at ht ⊢
    split
    · next hc => exact hcomment hc.symm (by rwa [if_neg (by rw [← hc]; decide)] at ht)
    · split at ht
      · next hf => exact (htrack hf.symm).2
      · exact h.comment_le ht
  year := by
    rw [Function.update_apply]
    split
    · next hf => exact .inr (isYear_iff.1 (hyear hf.symm))
    · exact h.year
  trackNumber := by
    rw [Function.update_apply]
    split
    · next hf => exact .inr (isTrackNumber_iff.1 (htrack hf.symm).1)
    · exact h.trackNumber
  leftStripped := by
    intro g
    rw [Function.update_apply]
    split
    · exact hs
    · exact h.leftStripped g

namespace Tag

theorem leftStripped_kept {t : Tag} (hs : Text.strip s = s) :
    Text.LeftStripped (t.kept marker f s) := by
  rcases kept_cases marker t f s with h | h
  · rw [h]
    exact (Text.strip_eq_self_iff.1 hs).1
  · rw [h]
    exact Text.leftStripped_trim s _ marker

theorem rightStripped_kept {t : Tag} (hm : Text.ProperMarker marker) (hs : Text.strip s = s) :
    Text.RightStripped (t.kept marker f s) := by
  rcases kept_cases marker t f s with h | h
  · rw [h]
    exact (Text.strip_eq_self_iff.1 hs).2
  · rw [h]
    exact Text.rightStripped_trim hm s _

theorem length_kept_le {t : Tag} {n : Nat} (hf : f ≠ .year ∧ f ≠ .trackNumber)
    (hn : t.limit f = some n) : (t.kept marker f s).length ≤ n := by
  rw [kept_of_bounded hf, hn]
  exact Text.length_trim_le_limit s n marker

/-- A text that a field keeps fits the field, if the texts beside it do. -/
theorem validTexts_kept (marker : Option Text) (hv : ValidTexts v) (hf : f.accepts s = true)
    (hs : Text.strip s = s) (htrack : f = .trackNumber → (v .comment).length ≤ 28) :
    ValidTexts (Function.update v f ((ofTexts v).kept marker f s)) := by
  have hlimit := limit_eq (textual_ofTexts v) f
  refine hv.update (leftStripped_kept hs) (fun hmem => ?_) (fun hc ht => ?_) (fun hy => ?_)
    fun ht => ?_
  · have hbound : f ≠ .year ∧ f ≠ .trackNumber := by
      revert hmem
      cases f <;> decide
    have hmax : f.maxLength = some 30 := by
      revert hmem
      cases f <;> decide
    by_cases hc : f = .comment ∧ (ofTexts v).text .trackNumber ≠ []
    · rw [if_pos hc] at hlimit
      exact (length_kept_le hbound hlimit).trans (by decide)
    · rw [if_neg hc, hmax] at hlimit
      exact length_kept_le hbound hlimit
  · subst hc
    rw [text_ofTexts, if_pos ⟨rfl, ht⟩] at hlimit
    exact length_kept_le (by decide) hlimit
  · subst hy
    exact hf
  · subst ht
    exact ⟨hf, htrack rfl⟩

/-- Storing an accepted text keeps texts valid; without a blank at the end of a marker, it leaves no
blank at the end of a text. -/
theorem put_ofTexts (marker : Option Text) (hv : ValidTexts v) (hf : f.accepts s = true)
    (hs : Text.strip s = s) :
    ∃ w, (ofTexts v).put marker f s = ofTexts w ∧ ValidTexts w ∧
      (Text.ProperMarker marker → (∀ g, (v g).RightStripped) → ∀ g, (w g).RightStripped) := by
  have hright : ∀ {u : Field → Text} {g : Field} {r : Text}, (∀ g, (u g).RightStripped) →
      r.RightStripped → ∀ h, (Function.update u g r h).RightStripped := by
    intro u g r hu hr h
    rw [Function.update_apply]
    split
    · exact hr
    · exact hu h
  rw [put]
  by_cases ht : f = .trackNumber
  · -- the comment is cut first, so that the track number finds room
    subst ht
    have hlen : ((ofTexts v).shortenedComment marker).length ≤ 28 := by
      rw [shortenedComment_ofTexts]
      exact Text.length_trim_le_limit _ 28 marker
    have hleft : ((ofTexts v).shortenedComment marker).LeftStripped := by
      rw [shortenedComment_ofTexts]
      exact Text.leftStripped_trim _ _ marker
    have hshort : ValidTexts (Function.update v .comment ((ofTexts v).shortenedComment marker)) :=
      hv.update hleft (fun _ => by omega) (fun _ _ => hlen) (fun h => by cases h)
        fun h => by cases h
    rw [if_pos rfl, shortened_ofTexts, setText_ofTexts]
    refine ⟨_, rfl, ?_, fun hm hr => hright (hright hr ?_) (rightStripped_kept hm hs)⟩
    · exact validTexts_kept marker hshort hf hs fun _ => by rw [Function.update_self]; exact hlen
    · rw [shortenedComment_ofTexts]
      exact Text.rightStripped_trim hm _ _
  · rw [if_neg ht, setText_ofTexts]
    refine ⟨_, rfl, validTexts_kept marker hv hf hs fun h => absurd h ht, fun hm hr => ?_⟩
    exact hright hr (rightStripped_kept hm hs)

end Tag

end NameTag
