import NameTag.Proofs.Extract.Reading
import NameTag.Proofs.Valid

/-!
# Storing captures

Storing never lengthens a text (`length_text_storeEach`). Valid texts without blanks at their ends
are stored as they are, without a warning, into a tag that holds nothing else (`storeEach_valid`).
-/

namespace NameTag

variable {marker : Option Text}

namespace Tag

variable {t : Tag} {f g : Field} {s : Text} {u w : Field → Text}

/-! ## Lengths -/

theorem length_kept_le_self (t : Tag) (f : Field) (s : Text) :
    (t.kept marker f s).length ≤ s.length := by
  rcases kept_cases marker t f s with h | h
  · exact Nat.le_of_eq (congrArg List.length h)
  · rw [h]
    exact Text.length_trim_le s _ marker

theorem length_text_shortened (t : Tag) (f : Field) :
    ((t.shortened marker).text f).length ≤ (t.text f).length := by
  rw [shortened]
  split
  · exact Nat.le_refl _
  · rw [text_setText]
    split
    · next hf =>
      rw [hf]
      exact Text.length_trim_le _ _ marker
    · exact Nat.le_refl _

/-- Storing a text in one field lengthens no other. -/
theorem length_text_put (marker : Option Text) (t : Tag) (f g : Field) (s : Text) :
    ((t.put marker g s).text f).length ≤ if f = g then s.length else (t.text f).length := by
  rw [put, text_setText]
  split
  · exact length_kept_le_self t g s
  · split
    · exact length_text_shortened t f
    · exact Nat.le_refl _

/-! ## Texts that fit -/

/-- A text of a valid tag fits its field in a tag that holds some of the texts. -/
theorem length_le_limit (hw : ValidTexts w) (hu : ∀ f, u f = w f ∨ u f = []) :
    ∀ n ∈ (ofTexts u).limit f, (w f).length ≤ n := by
  intro n hn
  rw [limit_eq (textual_ofTexts u), text_ofTexts] at hn
  split at hn
  · next hc =>
    obtain ⟨rfl, hne⟩ := hc
    cases hn
    have hsame := (hu .trackNumber).resolve_right hne
    exact hw.comment_le (hsame ▸ hne)
  · cases f with
    | year =>
      cases hn
      rcases hw.year with h | h
      · rw [h]
        exact Nat.zero_le _
      · exact Nat.le_of_eq h.1
    | trackNumber => cases hn
    | genre => cases hn
    | _ =>
      cases hn
      exact hw.text_le _ (by decide)

theorem kept_eq_self (marker : Option Text) (hw : ValidTexts w) (hs : Text.strip (w f) = w f)
    (hu : ∀ f, u f = w f ∨ u f = []) : (ofTexts u).kept marker f (w f) = w f := by
  rcases kept_cases marker (ofTexts u) f (w f) with h | h
  · exact h
  · rw [h]
    exact Text.trim_eq_self marker hs (length_le_limit hw hu)

/-- A comment that a track number leaves room for is not cut. -/
theorem shortenedComment_eq_self (marker : Option Text) (hw : ValidTexts w)
    (hs : Text.strip (w .comment) = w .comment) (hu : ∀ f, u f = w f ∨ u f = [])
    (hn : w .trackNumber ≠ []) :
    (ofTexts u).shortenedComment marker = u .comment := by
  rw [shortenedComment_ofTexts]
  rcases hu .comment with h | h
  · rw [h]
    refine Text.trim_eq_self marker hs fun n hlimit => ?_
    cases hlimit
    exact hw.comment_le hn
  · rw [h]
    rfl

/-- A tag that holds some of the texts holds some of them with one more. -/
theorem eq_or_nil_update (hu : ∀ f, u f = w f ∨ u f = []) (f g : Field) :
    Function.update u f (w f) g = w g ∨ Function.update u f (w f) g = [] := by
  rw [Function.update_apply]
  split
  · next hg => exact .inl (by rw [hg])
  · exact hu g

theorem put_eq_update (marker : Option Text) (hw : ValidTexts w) (hs : ∀ f, Text.strip (w f) = w f)
    (hu : ∀ f, u f = w f ∨ u f = []) (hne : w f ≠ []) :
    (ofTexts u).put marker f (w f) = ofTexts (Function.update u f (w f)) ∧
      (ofTexts u).putWarnings marker f (w f) = [] := by
  have hkept := kept_eq_self marker hw (hs f) hu
  rw [put, putWarnings, hkept]
  by_cases hf : f = .trackNumber
  · subst hf
    have hshort := shortenedComment_eq_self marker hw (hs .comment) hu hne
    rw [if_pos rfl, if_pos rfl, shortened_ofTexts, hshort, Function.update_eq_self, setText_ofTexts,
      text_ofTexts, if_neg (fun h => h rfl)]
    exact ⟨rfl, rfl⟩
  · rw [if_neg hf, if_neg hf, setText_ofTexts, if_neg (fun h => h rfl)]
    exact ⟨rfl, rfl⟩

end Tag

theorem ValidTexts.accepts {w : Field → Text} {f : Field} (hw : ValidTexts w) (hne : w f ≠ []) :
    f.accepts (w f) = true := by
  cases f with
  | year => exact hw.year_iff.resolve_left hne
  | trackNumber => exact hw.trackNumber_iff.resolve_left hne
  | _ => rfl

/-- Without a weed and a mode, the texts of fields are stored as they are captured. -/
theorem Conversion.stores_of_fields {marker : Value} {ks : List Capture}
    (h : ∀ k ∈ ks, ∃ f : Field, k.name = f.name) :
    Conversion.stores ⟨marker, none, none⟩ ks = ks := by
  have hkeep : ks.filter (·.name ≠ Field.ignored) = ks := by
    refine List.filter_eq_self.2 fun k hk => ?_
    obtain ⟨f, hf⟩ := h k hk
    simpa [hf] using (Field.ignored_ne_name f).symm
  rw [Conversion.stores, hkeep]
  exact List.map_id ks

namespace Edit

variable {t t' : Tag} {ws ws' : List Warning} {d' : Draft}

/-- After a run of stores a text is no longer than before, or than a text that was stored there. -/
theorem length_text_storeEach {ks : List Capture} (ht : t.Textual)
    (h : storeEach (.ofMarker marker) ks ⟨.editable t, ws⟩ = .ok () ⟨.editable t', ws'⟩)
    (f : Field) :
    (t'.text f).length ≤ (t.text f).length ∨
      ∃ k ∈ ks, k.name = f.name ∧ (t'.text f).length ≤ k.text.length := by
  induction ks generalizing t ws with
  | nil =>
    cases h
    exact .inl (Nat.le_refl _)
  | cons k ks ih =>
    obtain ⟨r, d₁, hstore, hrest⟩ := bind_eq_ok_iff.1 h
    obtain ⟨g, hg, -, -, -, rfl⟩ := (store_eq_ok_iff ht).1 hstore
    rw [Value.shown_text] at hrest
    have hname := Value.text.inj hg
    have hput := Tag.length_text_put marker t f g (Text.strip k.text)
    rcases ih (ht.put g _) hrest with hle | ⟨k', hk', hname, hle⟩
    · split at hput
      · next hfg =>
        have := Text.length_strip_le k.text
        exact .inr ⟨k, List.mem_cons_self, hfg ▸ hname, by omega⟩
      · exact .inl (by omega)
    · exact .inr ⟨k', List.mem_cons_of_mem _ hk', hname, hle⟩

/-- What different fields of an empty tag get is no longer than what was captured for them. -/
theorem length_le_of_stored {ks : List Capture} {u : Field → Text} {k : Capture} {f : Field}
    (hd : (ks.map (·.name)).Nodup)
    (h : storeEach (.ofMarker marker) ks ⟨.editable .empty, ws⟩ =
      .ok () ⟨.editable (.ofTexts u), ws'⟩)
    (hk : k ∈ ks) (hf : k.name = f.name) : (u f).length ≤ k.text.length := by
  have hempty : (Tag.empty.text f).length = 0 := by
    rw [Tag.empty_eq_ofTexts, Tag.text_ofTexts]
    rfl
  have hlen := length_text_storeEach Tag.textual_empty h f
  rw [Tag.text_ofTexts] at hlen
  rcases hlen with hle | ⟨k', hk', hf', hle⟩
  · omega
  · obtain rfl : k' = k := List.inj_on_of_nodup_map hd hk' hk (hf'.trans hf.symm)
    exact hle

/-- A valid text is stored as it is into a tag that holds some of the texts and nothing else. -/
theorem storeText_valid {u w : Field → Text} (hw : ValidTexts w) (hs : ∀ f, Text.strip (w f) = w f)
    (hu : ∀ f, u f = w f ∨ u f = []) {f : Field} (hne : w f ≠ []) :
    storeText (.ofMarker marker) f (w f) ⟨.editable (.ofTexts u), ws⟩ =
      .ok (w f) ⟨.editable (.ofTexts (Function.update u f (w f))), ws⟩ := by
  obtain ⟨hput, hwarn⟩ := Tag.put_eq_update marker hw hs hu hne
  rw [storeText_textual (Tag.textual_ofTexts u), if_pos (hw.accepts hne), hput, hwarn,
    List.append_nil, Tag.kept_eq_self marker hw (hs f) hu]

/-- Valid texts are stored as they are into a tag that holds some of them and nothing else. -/
theorem storeEach_valid {u w : Field → Text} (hw : ValidTexts w) (hs : ∀ f, Text.strip (w f) = w f)
    (hu : ∀ f, u f = w f ∨ u f = []) {names : List Text}
    (hn : ∀ name ∈ names, ∃ f : Field, name = f.name ∧ w f ≠ []) :
    storeEach (.ofMarker marker) (names.map fun name => ⟨name, Pattern.valueAt w name⟩)
        ⟨.editable (.ofTexts u), ws⟩ =
      .ok () ⟨.editable (.ofTexts fun f => if f.name ∈ names then w f else u f), ws⟩ := by
  induction names generalizing u with
  | nil => rfl
  | cons name names ih =>
    obtain ⟨⟨f, rfl, hf⟩, hrest⟩ := List.forall_mem_cons.1 hn
    have hstore :
        store (.ofMarker marker) (.text f.name) (.text (w f)) ⟨.editable (.ofTexts u), ws⟩ =
          .ok (w f) ⟨.editable (.ofTexts (Function.update u f (w f))), ws⟩ := by
      rw [store_name, hs f, storeText_valid hw hs hu hf]
    have hlast : (fun g : Field => if g.name ∈ names then w g else Function.update u f (w f) g) =
        fun g => if g.name ∈ f.name :: names then w g else u g := by
      funext g
      by_cases hg : g = f
      · rw [hg, Function.update_self, ite_self, if_pos List.mem_cons_self]
      · have hne : g.name ≠ f.name := fun h => hg (Field.name_injective h)
        rw [Function.update_of_ne hg]
        simp only [List.mem_cons, hne, false_or]
    rw [List.map_cons, storeEach, Pattern.valueAt_name, bind_of_ok hstore,
      ih (Tag.eq_or_nil_update hu f) hrest, hlast]

end Edit

end NameTag
