import NameTag.Proofs.StoreRun
import NameTag.Proofs.Valid

/-!
# Storing and parsing again

A store or a parse that succeeded succeeds again and changes nothing more
(`Session.update_idempotent`). A second run begins with a track number that the first one may have
stored only later, and so cuts the comment to 28 characters at once; it ends alike because what is
different at its start is stored or cut anew (`Tag.AgreeBut`).
-/

namespace NameTag

namespace Tag

variable {marker : Option Text} {t u w : Tag} {f : Field} {r s key : Text}
  {l : List (Field × Text)} {fs : List Field}

/-! ## One store -/

theorem strip_kept (hm : Text.ProperMarker marker) (hs : Text.strip s = s) :
    Text.strip (t.kept marker f s) = t.kept marker f s :=
  Text.strip_eq_self_iff.2 ⟨leftStripped_kept hs, rightStripped_kept hm hs⟩

theorem accepts_kept (h : f.accepts s = true) : f.accepts (t.kept marker f s) = true := by
  by_cases hf : f ≠ .year ∧ f ≠ .trackNumber
  · exact Field.accepts_of_bounded hf _
  · rcases Field.year_or_trackNumber hf with rfl | rfl <;> exact h

/-- A field keeps as it is what it has kept. -/
theorem kept_kept (hm : Text.ProperMarker marker) :
    t.kept marker f (t.kept marker f s) = t.kept marker f s := by
  by_cases hf : f ≠ .year ∧ f ≠ .trackNumber
  · rw [kept_of_bounded hf, kept_of_bounded hf]
    exact Text.trim_trim hm s (t.limit f)
  · rcases Field.year_or_trackNumber hf with rfl | rfl <;> rfl

/-- A field keeps the same of a text after a store in the field. -/
theorem kept_put : (t.put marker f s).kept marker f r = t.kept marker f r := by
  by_cases hf : f = .trackNumber
  · rw [hf]
    rfl
  · refine kept_congr ?_ f r
    rw [put, if_neg hf, value_setText, if_neg (Ne.symm hf)]

theorem text_comment_shortened :
    (t.shortened marker).text .comment = t.shortenedComment marker := by
  rw [shortened]
  split
  · next hc => rw [hc, shortenedComment_of_empty hc]
  · rw [text_setText, if_pos rfl]

/-- A comment that was cut for a track number is not cut again. -/
theorem shortenedComment_shortened (hm : Text.ProperMarker marker) :
    (t.shortened marker).shortenedComment marker = t.shortenedComment marker := by
  rw [shortenedComment, text_comment_shortened]
  exact Text.trim_trim hm (t.text .comment) shortComment

theorem text_comment_put :
    (t.put marker .trackNumber s).text .comment = t.shortenedComment marker := by
  rw [put, if_pos rfl, text_setText, if_neg (by decide), text_comment_shortened]

theorem shortenedComment_put (hm : Text.ProperMarker marker) :
    (t.put marker .trackNumber s).shortenedComment marker = t.shortenedComment marker := by
  rw [shortenedComment_congr (text_comment_put.trans text_comment_shortened.symm),
    shortenedComment_shortened hm]

/-- Storing what a field holds already, beside a comment that leaves room, changes nothing. -/
theorem Textual.put_eq_self (ht : t.Textual) (h : t.get? f.name = some (.text (t.kept marker f s)))
    (hc : f = .trackNumber → t.shortenedComment marker = t.text .comment) :
    t.put marker f s = t := by
  rw [Tag.put]
  by_cases hf : f = .trackNumber
  · have hself : t.shortened marker = t := by
      rw [Tag.shortened]
      split
      · rfl
      · next hne => rw [hc hf, setText_self (ht.get?_of_text_ne hne)]
    rw [if_pos hf, hself, setText_self h]
  · rw [if_neg hf, setText_self h]

/-- A text that a store has kept is stored again without an effect, be it as it was given or as it
was kept. -/
theorem Textual.put_put (ht : t.Textual) (hm : Text.ProperMarker marker)
    (hr : r = s ∨ r = t.kept marker f s) :
    (t.put marker f s).put marker f r = t.put marker f s := by
  refine (ht.put f s).put_eq_self ?_ fun hf => ?_
  · rw [get?_put, if_pos rfl, kept_put]
    rcases hr with rfl | rfl
    · rfl
    · rw [kept_kept hm]
  · rw [hf, shortenedComment_put hm, text_comment_put]

theorem putWarnings_put (hm : Text.ProperMarker marker) :
    (t.put marker f s).putWarnings marker f (t.kept marker f s) = [] := by
  rw [putWarnings]
  by_cases hf : f = .trackNumber
  · rw [if_pos hf, hf, shortenedComment_put hm, text_comment_put, if_neg (not_not.2 rfl)]
  · rw [if_neg hf, kept_put, kept_kept hm, if_neg (not_not.2 rfl)]

/-! ## Tags that agree but for what is still to be stored -/

/-- Outside the fields that are still to be stored the tags hold the same values; if a track number
is among those, the comment may also differ in what the track number will cut off. -/
def AgreeBut (marker : Option Text) (fs : List Field) (t u : Tag) : Prop :=
  ∀ key, (∀ f ∈ fs, key ≠ f.name) →
    if .trackNumber ∈ fs then (t.shortened marker).get? key = (u.shortened marker).get? key
    else t.get? key = u.get? key

theorem AgreeBut.of_eq (h : ∀ key, (∀ f ∈ fs, key ≠ f.name) → t.get? key = u.get? key) :
    AgreeBut marker fs t u := by
  intro key hkey
  split
  · exact get?_shortened_congr (h key hkey)
  · exact h key hkey

theorem AgreeBut.trans (h₁ : AgreeBut marker fs t u) (h₂ : AgreeBut marker fs u w) :
    AgreeBut marker fs t w := by
  intro key hkey
  have h₁ := h₁ key hkey
  have h₂ := h₂ key hkey
  split
  · next hn =>
    rw [if_pos hn] at h₁ h₂
    exact h₁.trans h₂
  · next hn =>
    rw [if_neg hn] at h₁ h₂
    exact h₁.trans h₂

theorem AgreeBut.agree (h : AgreeBut marker [] t u) : t.Agree u :=
  fun key => h key (by simp)

theorem shortened_shortened (hm : Text.ProperMarker marker) :
    ((t.shortened marker).shortened marker).Agree (t.shortened marker) := by
  intro key
  rw [get?_shortened, text_comment_shortened, shortenedComment_shortened hm]
  split
  · next hc =>
    have hne : t.text .comment ≠ [] := fun he => hc.2 (shortenedComment_of_empty he)
    rw [get?_shortened, if_pos ⟨hc.1, hne⟩]
  · rfl

/-- A store of one of the fields makes no difference. -/
theorem agreeBut_put (hm : Text.ProperMarker marker) (hf : f ∈ fs) :
    AgreeBut marker fs (t.put marker f s) t := by
  by_cases hn : f = .trackNumber
  · subst hn
    intro key hkey
    have hput : (t.put marker .trackNumber s).get? key = (t.shortened marker).get? key := by
      rw [get?_put, if_neg (hkey _ hf), if_pos rfl]
    rw [if_pos hf, get?_shortened_congr hput, shortened_shortened hm]
  · exact .of_eq fun key hkey => get?_put_of_ne (hkey f hf) fun _ => hn

theorem agreeBut_putEach (hm : Text.ProperMarker marker) (hl : ∀ f ∈ l.map (·.1), f ∈ fs) :
    AgreeBut marker fs (t.putEach marker l) t := by
  induction l generalizing t with
  | nil => exact .of_eq fun _ _ => rfl
  | cons a l ih =>
    rw [List.map_cons, List.forall_mem_cons] at hl
    exact (ih hl.2).trans (agreeBut_put hm hl.1)

/-- What a field holds once a track number is stored after it does not depend on the tag. -/
theorem exists_shortened_put (hm : Text.ProperMarker marker) (hfit : Text.FitsAlike marker 28 30)
    (hf : f ≠ .trackNumber) (s : Text) :
    ∃ r, ∀ t : Tag,
      ((t.put marker f s).shortened marker).Agree ((t.shortened marker).setText f r) := by
  by_cases hc : f = .comment
  · subst hc
    refine ⟨Text.trim s (shortComment.map Nat.cast) marker, fun t => ?_⟩
    rw [put, if_neg hf, ← trim_kept_comment (t := t) hm hfit]
    exact shortened_setText_comment.trans setText_shortened.symm
  · refine ⟨empty.kept marker f s, fun t => ?_⟩
    rw [put_eq_setText hc hf t empty]
    exact shortened_setText hc

/-- A store brings the tags together in its field, and in the comment if it stores the last track
number. -/
theorem AgreeBut.put (h : AgreeBut marker (f :: fs) t u) (hm : Text.ProperMarker marker)
    (hfit : Text.FitsAlike marker 28 30) (s : Text) :
    AgreeBut marker fs (t.put marker f s) (u.put marker f s) := by
  by_cases hf : f = .trackNumber
  · subst hf
    refine .of_eq fun key hkey => ?_
    rw [get?_put, get?_put]
    by_cases hk : key = Field.trackNumber.name
    · rw [if_pos hk, if_pos hk]
      rfl
    · rw [if_neg hk, if_neg hk, if_pos rfl, if_pos rfl]
      have hother := h key (List.forall_mem_cons.2 ⟨hk, hkey⟩)
      rwa [if_pos List.mem_cons_self] at hother
  · have hiff : Field.trackNumber ∈ f :: fs ↔ Field.trackNumber ∈ fs := by
      rw [List.mem_cons]
      exact or_iff_right (Ne.symm hf)
    intro key hkey
    by_cases hn : Field.trackNumber ∈ fs
    · -- a later track number cuts whatever comment there is
      obtain ⟨r, hr⟩ := exists_shortened_put hm hfit hf s
      rw [if_pos hn, hr t key, hr u key, get?_setText, get?_setText]
      split
      · rfl
      · next hk =>
        have hother := h key (List.forall_mem_cons.2 ⟨hk, hkey⟩)
        rwa [if_pos (hiff.2 hn)] at hother
    · have hsame : ∀ k, (∀ g ∈ f :: fs, k ≠ Field.name g) → t.get? k = u.get? k := by
        intro k hk
        have hother := h k hk
        rwa [if_neg (hiff.not.2 hn)] at hother
      have hnumber : t.value .trackNumber = u.value .trackNumber :=
        value_congr (hsame _ fun g hg he => hiff.not.2 hn (Field.name_injective he ▸ hg))
      have hkept : t.kept marker f s = u.kept marker f s := kept_congr (by rw [hnumber]) f s
      rw [if_neg hn, get?_put, get?_put, if_neg hf, if_neg hf, hkept]
      split
      · rfl
      · next hk => exact hsame key (List.forall_mem_cons.2 ⟨hk, hkey⟩)

theorem AgreeBut.putEach (h : AgreeBut marker (l.map (·.1)) t u) (hm : Text.ProperMarker marker)
    (hfit : Text.FitsAlike marker 28 30) : (t.putEach marker l).Agree (u.putEach marker l) := by
  induction l generalizing t u with
  | nil => exact h.agree
  | cons a l ih => exact ih (h.put hm hfit _)

/-- Stores leave what they lead to. -/
theorem Textual.putEach_putEach (ht : t.Textual) (hkeys : t.keys.Nodup)
    (hm : Text.ProperMarker marker) (hfit : Text.FitsAlike marker 28 30) :
    (t.putEach marker l).putEach marker l = t.putEach marker l := by
  have hagree : ((t.putEach marker l).putEach marker l).Agree (t.putEach marker l) :=
    (agreeBut_putEach hm fun _ h => h).putEach hm hfit
  have hsame : ((t.putEach marker l).putEach marker l).keys = (t.putEach marker l).keys :=
    (ht.putEach l).keys_putEach_of_subset fun a ha =>
      ht.mem_keys_putEach.2 (.inr ⟨a.1, List.mem_map_of_mem ha, rfl⟩)
  exact hagree.eq_of_keys (hsame ▸ ht.nodup_keys_putEach hkeys) hsame

end Tag

namespace Session

open Edit

variable {marker : Option Text} {t : Tag} {s : Session} {subject : Subject}

theorem setField_eq_ok_iff (hmarker : s.settings.marker = .ofMarker marker) (ht : t.Textual)
    {field value : Value} {w : Text} {ws : List Warning} :
    (setField (.editable t) field value s).1 = (.ok ⟨.ok w, ws⟩, subject) ↔
      ∃ f : Field, field = .text f.name ∧ value ≠ .null ∧
        f.accepts (Text.strip value.shown) = true ∧ w = t.kept marker f (Text.strip value.shown) ∧
        subject = .editable (t.put marker f (Text.strip value.shown)) ∧
        ws = t.putWarnings marker f (Text.strip value.shown) := by
  rw [setField, perform_eq_ok_iff, hmarker, store_eq_ok_iff ht]
  simp only [Draft.mk.injEq, List.nil_append]

/-- What succeeded succeeds again and leaves the tag as it is: storing a value, or the text that was
stored, with no warning for that text, and parsing a name along a pattern, which may name a field
several times and the comment before or after the track number. No marker may be one that is cut
off a comment beside a track number only. -/
theorem update_idempotent {s' : Session} (hmarker : s.settings.marker = .ofMarker marker)
    (hmarker' : s'.settings.marker = .ofMarker marker)
    (hm : ∀ m ∈ marker, m ≠ [] ∧ Text.RightStripped m ∧ m.length ≠ 28 ∧ m.length ≠ 29)
    (ht : t.Textual) :
    (∀ field value w ws subject,
      (setField (.editable t) field value s).1 = (.ok ⟨.ok w, ws⟩, subject) →
      (setField subject field (.text w) s').1 = (.ok ⟨.ok w, []⟩, subject) ∧
      ∃ ws', (setField subject field value s').1 = (.ok ⟨.ok w, ws'⟩, subject)) ∧
    (t.keys.Nodup → ∀ source pattern mode weed n ws subject,
      (parse (.editable t) source pattern mode weed s).1 = (.ok ⟨.ok n, ws⟩, subject) →
      ∃ ws', (parse subject source pattern mode weed s').1 = (.ok ⟨.ok n, ws'⟩, subject)) := by
  have hproper : Text.ProperMarker marker := fun m h => ⟨(hm m h).1, (hm m h).2.1⟩
  have hfit := Text.fitsAlike_comment fun m h => (hm m h).2.2
  constructor
  · intro field value w ws subject h
    obtain ⟨f, rfl, hv, hacc, rfl, rfl, -⟩ := (setField_eq_ok_iff hmarker ht).1 h
    have hs := Text.strip_strip value.shown
    have hkept := Tag.strip_kept (t := t) (f := f) hproper hs
    refine ⟨(setField_eq_ok_iff hmarker' (ht.put f _)).2 ⟨f, rfl, by simp, ?_, ?_, ?_, ?_⟩,
      _, (setField_eq_ok_iff hmarker' (ht.put f _)).2 ⟨f, rfl, hv, hacc, ?_, ?_, rfl⟩⟩
    · rw [Value.shown_text, hkept]
      exact Tag.accepts_kept hacc
    · rw [Value.shown_text, hkept, Tag.kept_put, Tag.kept_kept hproper]
    · rw [Value.shown_text, hkept, ht.put_put hproper (.inr rfl)]
    · rw [Value.shown_text, hkept, Tag.putWarnings_put hproper]
    · rw [Tag.kept_put]
    · rw [ht.put_put hproper (.inl rfl)]
  · intro hkeys source pattern mode weed n ws subject h
    obtain ⟨l, hl, rfl, -, rfl⟩ := (parse_eq_ok_iff hmarker ht hkeys).1 h
    refine ⟨_, (parse_eq_ok_iff hmarker' (ht.putEach l) (ht.nodup_keys_putEach hkeys)).2
      ⟨l, hl, ?_, rfl, rfl⟩⟩
    rw [ht.putEach_putEach hkeys hproper hfit]

/-- The comment is cut to 30 characters and then to 28 the first time, and to 28 at once the second
time. -/
theorem update_idempotent_comment_number :
    let s : Session := { settings := { marker := .text "..".toList } }
    let source := Value.text (List.replicate 40 'c' ++ "_07".toList)
    let pattern := Value.text "((COMMENT))_((TRACKNUM))".toList
    let long := List.replicate 28 'c' ++ "..".toList
    let short := List.replicate 26 'c' ++ "..".toList
    ∃ subject ws', (parse (.editable .empty) source pattern .null .null s).1 =
        (.ok ⟨.ok 2, [.truncated .comment long, .commentShrunk short]⟩, subject) ∧
      (parse subject source pattern .null .null s).1 = (.ok ⟨.ok 2, ws'⟩, subject) := by
  intro s source pattern long short
  have hmarker : s.settings.marker = .ofMarker (some "..".toList) := rfl
  have hts : Pattern.tokens (Text.strip "((COMMENT))_((TRACKNUM))".toList) =
      [.placeholder Field.comment.name, .literal "_".toList,
        .placeholder Field.trackNumber.name] := by
    decide +kernel
  have hread : Pattern.read? (Pattern.tokens (Text.strip "((COMMENT))_((TRACKNUM))".toList))
      (Text.strip (List.replicate 40 'c' ++ "_07".toList)) none [] =
        some [⟨Field.comment.name, List.replicate 40 'c'⟩,
          ⟨Field.trackNumber.name, "07".toList⟩] := by
    rw [hts]
    decide +kernel
  have hextract : Extracts (.ofMarker (some "..".toList)) source pattern .null .null
      [(.comment, List.replicate 40 'c'), (.trackNumber, "07".toList)] :=
    ⟨_, _, _, _, rfl, rfl, ⟨by decide, by decide +kernel⟩, rfl, hread, rfl, by decide⟩
  have hrun := (parse_eq_ok_iff hmarker Tag.textual_empty Tag.nodup_keys_empty).2
    ⟨_, hextract, rfl, rfl, rfl⟩
  have hm : ∀ m ∈ some "..".toList,
      m ≠ [] ∧ Text.RightStripped m ∧ m.length ≠ 28 ∧ m.length ≠ 29 := by
    rintro m hm
    cases hm
    refine ⟨by decide, ?_, by decide, by decide⟩
    intro c hc
    cases hc
    decide
  obtain ⟨ws', hagain⟩ := (update_idempotent hmarker hmarker hm Tag.textual_empty).2
    Tag.nodup_keys_empty _ _ _ _ _ _ _ hrun
  exact ⟨_, ws', hrun, hagain⟩

end Session

end NameTag
