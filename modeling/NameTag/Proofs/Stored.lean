import NameTag.Proofs.Extract.Reading
import NameTag.Proofs.Valid

/-!
# Stores that succeed

`Edit.Stores` says all that a store that succeeds can have done, for any tag and any marker: which
text it gives, what becomes of the tag and which warnings are added. From it follow what a run of
stores leaves in a text field (`value_storeEach`) and in all others (`value_storeEach_of_not_mem`),
and that a run without a warning keeps every text as it was captured (`storeEach_silent`).
-/

namespace NameTag

/-! ## Cut texts -/

namespace Value

variable {marker : Value} {limit : Option Nat} {n : Nat} {s t : Text}

/-- Whatever the marker is, a text is cut as with a text for a marker or with none. -/
theorem exists_shorten (h : marker.shortenBy n t = .ok s) : ∃ m, s = Text.shorten m n t := by
  unfold shortenBy at h
  split at h
  · cases h
    exact ⟨none, rfl⟩
  · next m =>
    cases h
    exact ⟨some m, rfl⟩
  · split at h
    · cases h
    · cases h
      exact ⟨none, rfl⟩
  · split at h
    · cases h
    · cases h
      exact ⟨none, rfl⟩
  · cases h

/-- A text that is cut fits the limit. -/
theorem length_shortenBy_le (h : marker.shortenBy n t = .ok s) : s.length ≤ n := by
  obtain ⟨m, rfl⟩ := exists_shorten h
  exact Text.length_shorten_le m n t

/-- A text is trimmed to the limit or, where it fits, only stripped. -/
theorem trimTo_cases (h : marker.trimTo limit t = .ok s) :
    (s = Text.strip t ∧ ∀ n ∈ limit, (Text.strip t).length ≤ n) ∨
      ∃ n ∈ limit, n < (Text.strip t).length ∧ marker.shortenBy n (Text.strip t) = .ok s := by
  cases limit with
  | none =>
    cases h
    exact .inl ⟨rfl, by simp⟩
  | some n =>
    simp only [trimTo] at h
    split at h
    · next hn => exact .inr ⟨n, rfl, hn, h⟩
    · next hn =>
      cases h
      refine .inl ⟨rfl, fun m hm => ?_⟩
      cases hm
      omega

/-- A text that trimming gives back was within the limit. -/
theorem length_le_of_trimTo (h : marker.trimTo limit t = .ok t) : ∀ n ∈ limit, t.length ≤ n := by
  intro n hn
  rcases trimTo_cases h with ⟨ht, hle⟩ | ⟨m, hm, -, hcut⟩
  · rw [ht]
    exact hle n hn
  · obtain rfl : n = m := Option.some.inj (hn.symm.trans hm)
    exact length_shortenBy_le hcut

theorem trimTo_strip (t : Text) : marker.trimTo limit (Text.strip t) = marker.trimTo limit t := by
  unfold trimTo
  rw [Text.strip_strip]

end Value

namespace Edit

variable {marker : Value} {t t' : Tag} {f g : Field} {s r key : Text} {ws more : List Warning}
  {d' : Draft}

/-! ## One store -/

/-- What a store of a stripped text in a field does if it succeeds: the text that it gives, the tag
afterwards and the warnings that it adds. -/
inductive Stores (marker : Value) (t : Tag) :
    Field → (s r : Text) → (after : Tag) → List Warning → Prop
  | year {s : Text} (h : isYear s = true) : Stores marker t .year s s (t.setText .year s) []
  /-- There is no comment to make room in. -/
  | number {s : Text} (h : isTrackNumber s = true) (hc : (t.value .comment).isTrue = false) :
    Stores marker t .trackNumber s s (t.setText .trackNumber s) []
  | numberAndComment {s c short : Text} (h : isTrackNumber s = true)
      (hc : t.value .comment = .text c) (hcut : marker.trimTo Tag.shortComment c = .ok short) :
    Stores marker t .trackNumber s s ((t.setText .comment short).setText .trackNumber s)
      (if short ≠ c then [.commentShrunk short] else [])
  | text {f : Field} {s r : Text} (hf : f ≠ .year ∧ f ≠ .trackNumber)
      (hcut : marker.trimTo (t.limit f) s = .ok r) :
    Stores marker t f s r (t.setText f r) (if r ≠ s then [.truncated f r] else [])

/-- Making room for a track number either finds no comment or cuts the one that is there. -/
theorem shrinkComment_eq_ok
    (h : shrinkComment marker ⟨.editable t, ws⟩ = .ok () d') :
    ((t.value .comment).isTrue = false ∧ d' = ⟨.editable t, ws⟩) ∨
      ∃ c short, t.value .comment = .text c ∧ marker.trimTo Tag.shortComment c = .ok short ∧
        d' = ⟨.editable (t.setText .comment short),
          ws ++ if short ≠ c then [.commentShrunk short] else []⟩ := by
  rw [shrinkComment, bind_of_ok (editable_run t ws)] at h
  by_cases hc : (t.value .comment).isTrue = true
  · simp only [hc, if_true] at h
    cases hv : t.value .comment with
    | text c =>
      rw [hv] at h
      obtain ⟨short, d₁, hcut, hrest⟩ := bind_eq_ok_iff.1 h
      cases htrim : marker.trimTo Tag.shortComment c with
      | error e =>
        rw [htrim] at hcut
        cases hcut
      | ok short' =>
        rw [htrim] at hcut
        cases hcut
        refine .inr ⟨c, short, rfl, htrim, ?_⟩
        rw [bind_of_ok (setField_run _ _)] at hrest
        by_cases hs : short = c
        · simp [hs] at hrest ⊢
          exact hrest.symm
        · simp [hs] at hrest ⊢
          exact hrest.symm
    | _ =>
      rw [hv] at h
      cases h
  · simp only [hc, Bool.false_eq_true, if_false] at h
    cases h
    exact .inl ⟨Bool.eq_false_iff.2 hc, rfl⟩

theorem stores_of_storeText (h : storeText marker f s ⟨.editable t, ws⟩ = .ok r d') :
    ∃ t' more, Stores marker t f s r t' more ∧ d' = ⟨.editable t', ws ++ more⟩ := by
  by_cases hf : f ≠ .year ∧ f ≠ .trackNumber
  · rw [storeText_eq_of_bounded hf, bind_of_ok (editable_run t ws)] at h
    obtain ⟨stored, d₁, hcut, hrest⟩ := bind_eq_ok_iff.1 h
    cases htrim : marker.trimTo (t.limit f) s with
    | error e =>
      rw [htrim] at hcut
      cases hcut
    | ok r' =>
      rw [htrim] at hcut
      cases hcut
      by_cases hr : stored = s
      · subst hr
        simp at hrest
        obtain ⟨rfl, rfl⟩ := hrest
        exact ⟨_, _, .text hf htrim, by simp⟩
      · simp [hr] at hrest
        obtain ⟨rfl, rfl⟩ := hrest
        exact ⟨_, _, .text hf htrim, by simp [hr]⟩
  · rcases Field.year_or_trackNumber hf with rfl | rfl
    · cases hy : isYear s with
      | false => simp [storeText, hy] at h
      | true =>
        simp [storeText, hy] at h
        obtain ⟨rfl, rfl⟩ := h
        exact ⟨_, _, .year hy, by simp⟩
    · cases hn : isTrackNumber s with
      | false => simp [storeText, hn] at h
      | true =>
        simp only [storeText, hn, Bool.not_true, Bool.false_eq_true, if_false] at h
        obtain ⟨u, d₁, hshrink, hrest⟩ := bind_eq_ok_iff.1 h
        rcases shrinkComment_eq_ok hshrink with ⟨hc, rfl⟩ | ⟨c, short, hc, hcut, rfl⟩
        · cases hrest
          exact ⟨_, _, .number hn hc, by simp⟩
        · cases hrest
          exact ⟨_, _, .numberAndComment hn hc hcut, rfl⟩

/-- The text that a store gives stands in the field afterwards. -/
theorem Stores.get?_eq (h : Stores marker t f s r t' more) : t'.get? f.name = some (.text r) := by
  cases h <;> rw [Tag.get?_setText, if_pos rfl]

theorem Stores.value_eq (h : Stores marker t f s r t' more) : t'.value f = .text r := by
  rw [Tag.value, h.get?_eq, Option.getD_some]

/-- A store leaves other names alone, but for the comment beside a track number. -/
theorem Stores.get?_of_ne (h : Stores marker t f s r t' more) (hkey : key ≠ f.name)
    (hc : key = Field.comment.name → f ≠ .trackNumber) : t'.get? key = t.get? key := by
  cases h with
  | numberAndComment =>
    have hcomment : key ≠ Field.comment.name := fun he => hc he rfl
    rw [Tag.get?_setText, if_neg hkey, Tag.get?_setText, if_neg hcomment]
  | _ => rw [Tag.get?_setText, if_neg hkey]

theorem Stores.value_of_ne (h : Stores marker t f s r t' more) (hg : g ≠ f)
    (hc : g = .comment → f ≠ .trackNumber) : t'.value g = t.value g := by
  rw [Tag.value, Tag.value, h.get?_of_ne (fun he => hg (Field.name_injective he))
    fun he => hc (Field.name_injective he)]

/-- A store of another field leaves a field's limit alone, unless it is the comment's and a track
number is stored. -/
theorem Stores.limit_of_ne (h : Stores marker t f s r t' more)
    (hc : g = .comment → f ≠ .trackNumber) : t'.limit g = t.limit g := by
  unfold Tag.limit
  by_cases hg : g = .comment
  · have hnumber : t'.value .trackNumber = t.value .trackNumber :=
      h.value_of_ne (Ne.symm (hc hg)) fun he => by cases he
    rw [hnumber]
  · simp only [hg, false_and, if_false]

/-! ## Stores in a row -/

variable {k : Capture} {ks : List Capture}

theorem storeEach_cons_eq_ok (h : storeEach marker (k :: ks) ⟨.editable t, ws⟩ = .ok () d') :
    ∃ f r t₁ more, k.name = Field.name f ∧ Stores marker t f (Text.strip k.text) r t₁ more ∧
      storeEach marker ks ⟨.editable t₁, ws ++ more⟩ = .ok () d' := by
  obtain ⟨r, d₁, hstore, hrest⟩ := bind_eq_ok_iff.1 h
  cases hf : Field.ofName? k.name with
  | none => simp [store, hf] at hstore
  | some f =>
    have hname := Field.ofName?_eq_some.1 hf
    rw [hname, store_name] at hstore
    obtain ⟨t₁, more, hst, rfl⟩ := stores_of_storeText hstore
    exact ⟨f, r, t₁, more, hname, hst, hrest⟩

/-- Stores leave names alone that are not among theirs; the comment's, if no track number is
stored. -/
theorem get?_storeEach_of_not_mem
    (h : storeEach marker ks ⟨.editable t, ws⟩ = .ok () ⟨.editable t', more⟩)
    (hkey : key ∉ ks.map (·.name))
    (hc : key = Field.comment.name → Field.trackNumber.name ∉ ks.map (·.name)) :
    t'.get? key = t.get? key := by
  induction ks generalizing t ws with
  | nil =>
    cases h
    rfl
  | cons k ks ih =>
    obtain ⟨f, r, t₁, _, hname, hst, hrest⟩ := storeEach_cons_eq_ok h
    rw [List.map_cons, List.mem_cons, not_or, hname] at hkey
    have hcf : key = Field.comment.name → f ≠ .trackNumber :=
      fun he hf => hc he (by rw [List.map_cons, hname, hf]; exact List.mem_cons_self)
    calc t'.get? key = t₁.get? key := ih hrest hkey.2 fun he hm => hc he (List.mem_cons_of_mem _ hm)
      _ = t.get? key := hst.get?_of_ne hkey.1 hcf

theorem value_storeEach_of_not_mem
    (h : storeEach marker ks ⟨.editable t, ws⟩ = .ok () ⟨.editable t', more⟩)
    (hg : g.name ∉ ks.map (·.name))
    (hc : g = .comment → Field.trackNumber.name ∉ ks.map (·.name)) : t'.value g = t.value g := by
  rw [Tag.value, Tag.value, get?_storeEach_of_not_mem h hg fun he => hc (Field.name_injective he)]

/-- A text field that is stored once holds its text, trimmed to what it may hold; the comment, if no
track number is stored. -/
theorem value_storeEach
    (h : storeEach marker ks ⟨.editable t, ws⟩ = .ok () ⟨.editable t', more⟩)
    (hone : (ks.map (·.name)).Nodup) (hk : k ∈ ks) (hname : k.name = f.name)
    (hf : f ≠ .year ∧ f ≠ .trackNumber)
    (hc : f = .comment → Field.trackNumber.name ∉ ks.map (·.name)) :
    ∃ r, marker.trimTo (t.limit f) k.text = .ok r ∧ t'.value f = .text r := by
  induction ks generalizing t ws with
  | nil => cases hk
  | cons a ks ih =>
    obtain ⟨g, r, t₁, _, hg, hst, hrest⟩ := storeEach_cons_eq_ok h
    rw [List.map_cons, List.nodup_cons] at hone
    have hlater : f = .comment → Field.trackNumber.name ∉ ks.map (·.name) :=
      fun he hm => hc he (List.mem_cons_of_mem _ hm)
    rcases List.mem_cons.1 hk with rfl | hk
    · -- this is the store of the field: later ones leave it alone
      obtain rfl : f = g := Field.name_injective (hname.symm.trans hg)
      have hlast := value_storeEach_of_not_mem hrest (hname ▸ hone.1) hlater
      rw [hst.value_eq] at hlast
      cases hst with
      | text _ hcut => exact ⟨r, Value.trimTo_strip k.text ▸ hcut, hlast⟩
      | year => exact absurd rfl hf.1
      | number => exact absurd rfl hf.2
      | numberAndComment => exact absurd rfl hf.2
    · have hcg : f = .comment → g ≠ .trackNumber :=
        fun he hn => hc he (by rw [List.map_cons, hg, hn]; exact List.mem_cons_self)
      rw [← hst.limit_of_ne hcg]
      exact ih hrest hone.2 hk hlater

/-! ## Stores without a warning -/

variable {u : Field → Text} {ws' : List Warning}

/-- A track number may stand beside a comment that leaves room for it. -/
theorem validTexts_update_trackNumber (hv : ValidTexts u) (hs : s.LeftStripped)
    (hn : isTrackNumber s = true) (hc : (u .comment).length ≤ 28) :
    ValidTexts (Function.update u .trackNumber s) := by
  refine hv.update hs (fun hmem => absurd hmem (by decide)) (fun hf => ?_) (fun hf => ?_)
    fun _ => ⟨hn, hc⟩
  · cases hf
  · cases hf

/-- A text that was not cut fits its field beside the texts that are there. -/
theorem validTexts_update_of_trimTo (hv : ValidTexts u) (hs : s.LeftStripped)
    (hf : f ≠ .year ∧ f ≠ .trackNumber)
    (hcut : marker.trimTo ((Tag.ofTexts u).limit f) s = .ok s) :
    ValidTexts (Function.update u f s) := by
  have hfit := Value.length_le_of_trimTo hcut
  rw [Tag.limit_eq (Tag.textual_ofTexts u), Tag.text_ofTexts] at hfit
  refine hv.update hs (fun hmem => ?_) (fun hc ht => ?_) (fun hy => absurd hy hf.1)
    fun ht => absurd ht hf.2
  · have hmax : f.maxLength = some 30 := by
      revert hmem
      cases f <;> decide
    split at hfit
    · exact (hfit 28 rfl).trans (by decide)
    · exact hfit 30 hmax
  · rw [if_pos ⟨hc, ht⟩] at hfit
    exact hfit 28 rfl

/-- A store of a stripped text that gives no warning keeps the text, and valid texts stay valid. -/
theorem Stores.silent (h : Stores marker (.ofTexts u) f s r t' more) (hmore : more = [])
    (hv : ValidTexts u) (hs : Text.strip s = s) :
    t' = .ofTexts (Function.update u f s) ∧ ValidTexts (Function.update u f s) := by
  have hleft : s.LeftStripped := (Text.strip_eq_self_iff.1 hs).1
  cases h with
  | year hy =>
    refine ⟨Tag.setText_ofTexts u .year s, hv.update hleft (fun hmem => absurd hmem (by decide))
      (fun hf => ?_) (fun _ => hy) fun hf => ?_⟩
    · cases hf
    · cases hf
  | number hn hc =>
    rw [Tag.value_ofTexts] at hc
    have hempty : u .comment = [] := by simpa [Value.isTrue] using hc
    refine ⟨Tag.setText_ofTexts u .trackNumber s, validTexts_update_trackNumber hv hleft hn ?_⟩
    rw [hempty]
    exact Nat.zero_le _
  | @numberAndComment _ c short hn hc hcut =>
    rw [Tag.value_ofTexts] at hc
    obtain rfl : u .comment = c := Value.text.inj hc
    obtain rfl : short = u .comment := by
      by_contra hne
      simp [hne] at hmore
    rw [Tag.setText_ofTexts, Function.update_eq_self, Tag.setText_ofTexts]
    exact ⟨rfl, validTexts_update_trackNumber hv hleft hn (Value.length_le_of_trimTo hcut 28 rfl)⟩
  | text hf hcut =>
    obtain rfl : r = s := by
      by_contra hne
      simp [hne] at hmore
    exact ⟨Tag.setText_ofTexts u f r, validTexts_update_of_trimTo hv hleft hf hcut⟩

/-- Stores only add to the warnings. -/
theorem warnings_isPrefix_storeEach
    (h : storeEach marker ks ⟨.editable t, ws⟩ = .ok () d') : ws <+: d'.warnings := by
  induction ks generalizing t ws with
  | nil =>
    cases h
    exact List.prefix_rfl
  | cons k ks ih =>
    obtain ⟨f, r, t₁, more, -, -, hrest⟩ := storeEach_cons_eq_ok h
    exact (List.prefix_append ws more).trans (ih hrest)

/-- Stores of stripped texts in different fields that give no warning keep every text. -/
theorem storeEach_silent
    (h : storeEach marker ks ⟨.editable (.ofTexts u), ws⟩ = .ok () ⟨.editable t', ws⟩)
    (hv : ValidTexts u) (hone : (ks.map (·.name)).Nodup)
    (hs : ∀ k ∈ ks, Text.strip k.text = k.text) :
    ∃ v, t' = .ofTexts v ∧ ValidTexts v ∧ (∀ k ∈ ks, Pattern.valueAt v k.name = k.text) ∧
      ∀ f : Field, f.name ∉ ks.map (·.name) → v f = u f := by
  induction ks generalizing u with
  | nil =>
    cases h
    exact ⟨u, rfl, hv, by simp, fun _ _ => rfl⟩
  | cons k ks ih =>
    obtain ⟨f, r, t₁, more, hname, hst, hrest⟩ := storeEach_cons_eq_ok h
    rw [List.map_cons, List.nodup_cons] at hone
    obtain ⟨hk, hks⟩ := List.forall_mem_cons.1 hs
    rw [hk] at hst
    have hmore : more = [] := by
      have hlen : (ws ++ more).length ≤ ws.length := (warnings_isPrefix_storeEach hrest).length_le
      rw [List.length_append] at hlen
      exact List.eq_nil_of_length_eq_zero (by omega)
    obtain ⟨rfl, hv₁⟩ := hst.silent hmore hv hk
    rw [hmore, List.append_nil] at hrest
    obtain ⟨v, rfl, hvalid, hin, hout⟩ := ih hrest hv₁ hone.2 hks
    refine ⟨v, rfl, hvalid, List.forall_mem_cons.2 ⟨?_, hin⟩, fun g hg => ?_⟩
    · -- the later stores leave this field alone
      rw [hname, Pattern.valueAt_name, hout f (hname ▸ hone.1), Function.update_self]
    · rw [List.map_cons, List.mem_cons, not_or] at hg
      have hgf : g ≠ f := fun he => hg.1 (by rw [he, hname])
      rw [hout g hg.2, Function.update_of_ne hgf]

end Edit

end NameTag
