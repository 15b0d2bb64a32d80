import NameTag.Proofs.Store
import NameTag.Proofs.Text.Digit

/-!
# The order of stores

Stores into different fields commute, up to the order in which names stand in a tag
(`Tag.put_comm`). Only the comment and the track number touch each other: the comment is cut to 30
characters and then to 28, or to 28 at once, and the two agree unless the marker fits one of the
limits only.
-/

namespace NameTag

namespace Tag

/-- The two tags hold the same values under the same names. -/
def Agree (t u : Tag) : Prop :=
  ∀ key, t.get? key = u.get? key

variable {marker : Option Text} {t u w : Tag} {f g : Field} {a b r s key : Text}

theorem Agree.refl (t : Tag) : t.Agree t := fun _ => rfl

theorem Agree.symm (h : t.Agree u) : u.Agree t := fun key => (h key).symm

theorem Agree.trans (h₁ : t.Agree u) (h₂ : u.Agree w) : t.Agree w :=
  fun key => (h₁ key).trans (h₂ key)

theorem Agree.value_eq (h : t.Agree u) (f : Field) : t.value f = u.value f :=
  value_congr (h f.name)

theorem Agree.text_eq (h : t.Agree u) (f : Field) : t.text f = u.text f :=
  text_congr (h f.name)

theorem Agree.setText (h : t.Agree u) (f : Field) (s : Text) :
    (t.setText f s).Agree (u.setText f s) := by
  intro key
  rw [get?_setText, get?_setText, h]

/-- What a field keeps depends only on whether there is a track number. -/
theorem kept_congr (h : (t.value .trackNumber).isTrue = (u.value .trackNumber).isTrue)
    (f : Field) (s : Text) : t.kept marker f s = u.kept marker f s := by
  have hlimit : t.limit f = u.limit f := by rw [limit, limit, h]
  cases f <;> simp only [kept, hlimit]

theorem shortenedComment_congr (h : t.text .comment = u.text .comment) :
    t.shortenedComment marker = u.shortenedComment marker := by
  rw [shortenedComment, shortenedComment, h]

theorem get?_shortened :
    (t.shortened marker).get? key =
      if key = Field.comment.name ∧ t.text .comment ≠ [] then
        some (.text (t.shortenedComment marker))
      else t.get? key := by
  rw [shortened]
  by_cases hc : t.text .comment = []
  · rw [if_pos hc, if_neg fun h => h.2 hc]
  · rw [if_neg hc, get?_setText]
    simp [hc]

/-- Making room for a track number treats every name by itself. -/
theorem get?_shortened_congr (h : t.get? key = u.get? key) :
    (t.shortened marker).get? key = (u.shortened marker).get? key := by
  rw [get?_shortened, get?_shortened]
  by_cases hk : key = Field.comment.name
  · have htext : t.text .comment = u.text .comment := text_congr (hk ▸ h)
    rw [htext, shortenedComment_congr htext, h]
  · rw [if_neg fun hc => hk hc.1, if_neg fun hc => hk hc.1, h]

theorem Agree.shortened (h : t.Agree u) : (t.shortened marker).Agree (u.shortened marker) :=
  fun key => get?_shortened_congr (h key)

theorem Agree.put (h : t.Agree u) (f : Field) (s : Text) :
    (t.put marker f s).Agree (u.put marker f s) := by
  have hk : t.kept marker f s = u.kept marker f s := kept_congr (by rw [h.value_eq]) f s
  rw [Tag.put, Tag.put, hk]
  by_cases hf : f = .trackNumber
  · rw [if_pos hf, if_pos hf]
    exact h.shortened.setText f _
  · rw [if_neg hf, if_neg hf]
    exact h.setText f _

theorem entries_eq_of_agree {l l' : List (Text × Value)} (h : Agree ⟨l⟩ ⟨l'⟩)
    (hn : (l.map (·.1)).Nodup) (hkeys : l.map (·.1) = l'.map (·.1)) : l = l' := by
  induction l generalizing l' with
  | nil => exact (List.map_eq_nil_iff.1 hkeys.symm).symm
  | cons e l ih =>
    cases l' with
    | nil => cases hkeys
    | cons e' l' =>
      obtain ⟨k, v⟩ := e
      obtain ⟨k', v'⟩ := e'
      obtain ⟨rfl, htail⟩ := List.cons.inj hkeys
      rw [List.map_cons, List.nodup_cons] at hn
      have hnot : k ∉ l'.map (·.1) := htail ▸ hn.1
      have hvalue : v = v' := by simpa [get?] using h k
      have hrest : Agree ⟨l⟩ ⟨l'⟩ := by
        intro key
        by_cases hk : key = k
        · rw [hk, get?_of_not_mem hn.1, get?_of_not_mem hnot]
        · simpa [get?, List.lookup_cons, beq_eq_false_iff_ne.2 hk] using h key
      rw [hvalue, ih hrest hn.2 htail]

/-- Tags that agree and have their names in the same order are equal. -/
theorem Agree.eq_of_keys (h : t.Agree u) (hn : t.keys.Nodup) (hkeys : t.keys = u.keys) : t = u :=
  congrArg Tag.mk (entries_eq_of_agree h hn hkeys)

theorem Agree.eq_of_ofTexts {v w : Field → Text} (h : (ofTexts v).Agree (ofTexts w)) :
    ofTexts v = ofTexts w :=
  h.eq_of_keys (nodup_keys_ofTexts v) rfl

/-! ## Stores into two fields -/

theorem setText_comm (hfg : f ≠ g) :
    ((t.setText f r).setText g s).Agree ((t.setText g s).setText f r) := by
  intro key
  simp only [get?_setText]
  by_cases hf : key = f.name
  · rw [if_pos hf, if_neg fun hg => hfg (Field.name_injective (hf.symm.trans hg)), if_pos hf]
  · rw [if_neg hf, if_neg hf]

theorem shortened_setText (hg : g ≠ .comment) :
    ((t.setText g r).shortened marker).Agree ((t.shortened marker).setText g r) := by
  have hc : (t.setText g r).text .comment = t.text .comment := by
    rw [text_setText, if_neg (Ne.symm hg)]
  rw [Tag.shortened, Tag.shortened, hc, shortenedComment_congr hc]
  split
  · exact .refl _
  · exact setText_comm hg

/-- A field that is neither the comment nor the track number is set beside any store. -/
theorem put_setText (hfg : f ≠ g) (hc : g ≠ .comment) (hn : g ≠ .trackNumber) :
    ((t.setText g r).put marker f s).Agree ((t.put marker f s).setText g r) := by
  have hk : (t.setText g r).kept marker f s = t.kept marker f s :=
    kept_congr (by rw [value_setText, if_neg (Ne.symm hn)]) f s
  rw [Tag.put, Tag.put, hk]
  by_cases hf : f = .trackNumber
  · rw [if_pos hf, if_pos hf]
    exact ((shortened_setText hc).setText f _).trans (setText_comm (Ne.symm hfg))
  · rw [if_neg hf, if_neg hf]
    exact setText_comm (Ne.symm hfg)

theorem put_eq_setText (hc : g ≠ .comment) (hn : g ≠ .trackNumber) (t u : Tag) :
    t.put marker g s = t.setText g (u.kept marker g s) := by
  have hk : t.kept marker g s = u.kept marker g s := by
    have hlimit : t.limit g = u.limit g := by simp [limit, hc]
    cases g <;> simp only [kept, hlimit]
  rw [put, if_neg hn, hk]

theorem put_comm_of_plain (hfg : f ≠ g) (hc : g ≠ .comment) (hn : g ≠ .trackNumber) :
    ((t.put marker f a).put marker g b).Agree ((t.put marker g b).put marker f a) := by
  rw [put_eq_setText hc hn _ t, put_eq_setText hc hn t t]
  exact (put_setText hfg hc hn).symm

/-! ## The comment and the track number -/

/-- Cutting an empty comment leaves it empty, so that the case of an empty comment needs no name. -/
theorem shortened_setText_comment :
    ((t.setText .comment r).shortened marker).Agree
      (t.setText .comment (Text.trim r (shortComment.map Nat.cast) marker)) := by
  have hr : (t.setText .comment r).text .comment = r := by rw [text_setText, if_pos rfl]
  intro key
  rw [get?_shortened, shortenedComment, hr, get?_setText, get?_setText]
  by_cases hk : key = Field.comment.name
  · by_cases hc : r = []
    · rw [hc, if_neg fun h => h.2 rfl]
      rfl
    · rw [if_pos ⟨hk, hc⟩, if_pos hk]
  · rw [if_neg fun h => hk h.1, if_neg hk, if_neg hk]

theorem setText_shortened :
    ((t.shortened marker).setText .comment r).Agree (t.setText .comment r) := by
  intro key
  rw [get?_setText, get?_setText, get?_shortened]
  by_cases hk : key = Field.comment.name
  · rw [if_pos hk, if_pos hk]
  · rw [if_neg hk, if_neg hk, if_neg fun h => hk h.1]

/-- The comment is cut to what a track number leaves, whether it is cut to its own limit before. -/
theorem trim_kept_comment (hm : Text.ProperMarker marker) (hfit : Text.FitsAlike marker 28 30) :
    Text.trim (t.kept marker .comment a) (shortComment.map Nat.cast) marker =
      Text.trim a (shortComment.map Nat.cast) marker := by
  rw [kept_of_bounded (by decide)]
  by_cases hn : (t.value .trackNumber).isTrue = true
  · have hlimit : t.limit .comment = some 28 := by rw [limit, if_pos ⟨rfl, hn⟩]; rfl
    rw [hlimit]
    exact Text.trim_trim hm a (some 28)
  · have hlimit : t.limit .comment = some 30 := by rw [limit, if_neg fun h => hn h.2]; rfl
    rw [hlimit]
    exact Text.trim_trim_of_le a hm hfit (by decide)

theorem put_comm_comment (hm : Text.ProperMarker marker) (hfit : Text.FitsAlike marker 28 30)
    (hb : b ≠ []) :
    ((t.put marker .comment a).put marker .trackNumber b).Agree
      ((t.put marker .trackNumber b).put marker .comment a) := by
  have hkept : ((t.shortened marker).setText .trackNumber b).kept marker .comment a =
      Text.trim a (shortComment.map Nat.cast) marker := by
    have htrue :
        (((t.shortened marker).setText .trackNumber b).value .trackNumber).isTrue = true := by
      rw [value_setText, if_pos rfl, Value.isTrue, List.isEmpty_eq_false_iff.2 hb]
      rfl
    rw [kept_of_bounded (by decide), limit, if_pos ⟨rfl, htrue⟩]
    rfl
  have hleft : (t.put marker .comment a).put marker .trackNumber b =
      ((t.setText .comment (t.kept marker .comment a)).shortened marker).setText .trackNumber b :=
    rfl
  have hright : (t.put marker .trackNumber b).put marker .comment a =
      ((t.shortened marker).setText .trackNumber b).setText .comment
        (((t.shortened marker).setText .trackNumber b).kept marker .comment a) := rfl
  have hcut : ((t.setText .comment (t.kept marker .comment a)).shortened marker).Agree
      (t.setText .comment (Text.trim a (shortComment.map Nat.cast) marker)) := by
    rw [← trim_kept_comment (t := t) hm hfit]
    exact shortened_setText_comment
  have hswap : Field.trackNumber ≠ .comment := by decide
  rw [hleft, hright, hkept]
  exact (hcut.setText _ _).trans ((setText_comm hswap).trans (setText_shortened.setText _ _)).symm

/-- Stores into different fields commute. -/
theorem put_comm (hm : Text.ProperMarker marker) (hfit : Text.FitsAlike marker 28 30)
    (hfg : f ≠ g) (ha : f.accepts a = true) (hb : g.accepts b = true) :
    ((t.put marker f a).put marker g b).Agree ((t.put marker g b).put marker f a) := by
  have hnumber : ∀ s, Field.accepts .trackNumber s = true → s ≠ [] := by
    rintro s hs rfl
    exact absurd hs (by decide)
  by_cases hg : g ≠ .comment ∧ g ≠ .trackNumber
  · exact put_comm_of_plain hfg hg.1 hg.2
  by_cases hf : f ≠ .comment ∧ f ≠ .trackNumber
  · exact (put_comm_of_plain (Ne.symm hfg) hf.1 hf.2).symm
  -- both are the comment or the track number, and they differ
  rw [not_and_not_right] at hf hg
  by_cases hc : f = .comment
  · obtain rfl : g = .trackNumber := hg fun h => hfg (hc.trans h.symm)
    subst hc
    exact put_comm_comment hm hfit (hnumber b hb)
  · obtain rfl : f = .trackNumber := hf hc
    obtain rfl : g = .comment := by
      by_contra h
      exact hfg (hg h).symm
    exact (put_comm_comment hm hfit (hnumber a ha)).symm

end Tag

end NameTag
