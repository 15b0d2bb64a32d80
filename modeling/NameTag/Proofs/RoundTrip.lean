import NameTag.Proofs.Extract.Leftmost
import NameTag.Proofs.Extract.Storing
import NameTag.Proofs.Render
import Mathlib.Algebra.Order.BigOperators.Group.List
import Mathlib.Algebra.Order.Ring.Nat

/-!
# From a tag to a name and back

A name that was rendered from a valid tag along a pattern of different fields gives the values back
exactly if the pattern cuts the name where the values end (`Pattern.Unambiguous`): the literal
behind a value occurs first where the value ends, and a value at the end holds no literal of the
pattern.
-/

namespace NameTag

namespace Pattern

/-- A literal behind a value first occurs where the value ends, and a value at the end holds no
literal, neither of the tokens nor of those used before them. -/
structure Unambiguous (w : Field → Text) (used : List Text) (ts : List Token) : Prop where
  separated : ∀ (f : Field) (l : Text), [.placeholder f.name, .literal l] <:+: ts →
    Text.FirstFrom l (w f ++ l) 0 (w f).length
  last : ∀ f : Field, ts.getLast? = some (.placeholder f.name) →
    ∀ l ∈ used ++ literals ts, ¬ l <:+: w f

variable {w : Field → Text} {used : List Text} {ts : List Token} {f : Field} {l : Text}

theorem unambiguous_nil : Unambiguous w used [] where
  separated := by simp
  last := by simp

theorem unambiguous_literal_cons :
    Unambiguous w used (.literal l :: ts) ↔ Unambiguous w (used ++ [l]) ts := by
  have hside : ∀ (f : Field) (m : Text),
      [.placeholder f.name, .literal m] <:+: .literal l :: ts ↔
        [.placeholder f.name, .literal m] <:+: ts := by
    intro f m
    rw [List.infix_cons_iff]
    simp
  have happend : used ++ literals (.literal l :: ts) = used ++ [l] ++ literals ts := by
    rw [literals, List.append_assoc, List.singleton_append]
  constructor
  · rintro ⟨hs, hl⟩
    exact ⟨fun f m h => hs f m ((hside f m).2 h), fun f h => happend ▸ hl f (getLast?_literal_cons.2 h)⟩
  · rintro ⟨hs, hl⟩
    exact ⟨fun f m h => hs f m ((hside f m).1 h), fun f h => happend ▸ hl f (getLast?_literal_cons.1 h)⟩

theorem unambiguous_placeholder :
    Unambiguous w used [.placeholder f.name] ↔ ∀ l ∈ used, ¬ l <:+: w f := by
  constructor
  · rintro ⟨-, hl⟩
    simpa [literals] using hl f rfl
  · intro h
    constructor
    · intro g m hi
      have := hi.length_le
      simp at this
    · intro g hg
      obtain rfl : f = g := Field.name_injective (by simpa using hg)
      simpa [literals] using h

theorem unambiguous_placeholder_literal :
    Unambiguous w used (.placeholder f.name :: .literal l :: ts) ↔
      Text.FirstFrom l (w f ++ l) 0 (w f).length ∧ Unambiguous w (used ++ [l]) ts := by
  rw [← unambiguous_literal_cons]
  have hside : ∀ (g : Field) (m : Text),
      [.placeholder g.name, .literal m] <:+: .placeholder f.name :: .literal l :: ts ↔
        (g = f ∧ m = l) ∨ [.placeholder g.name, .literal m] <:+: .literal l :: ts := by
    intro g m
    rw [List.infix_cons_iff]
    refine or_congr_left ⟨fun h => ?_, ?_⟩
    · obtain ⟨hg, hm⟩ := by simpa using h
      exact ⟨Field.name_injective hg, hm⟩
    · rintro ⟨rfl, rfl⟩
      simp
  constructor
  · rintro ⟨hs, hl⟩
    refine ⟨hs f l ((hside f l).2 (.inl ⟨rfl, rfl⟩)), fun g m h => hs g m ((hside g m).2 (.inr h)),
      fun g h => hl g ?_⟩
    rw [List.getLast?_cons_cons]
    exact h
  · rintro ⟨hf, hs, hl⟩
    constructor
    · intro g m h
      rcases (hside g m).1 h with ⟨rfl, rfl⟩ | h
      · exact hf
      · exact hs g m h
    · intro g h
      rw [List.getLast?_cons_cons] at h
      exact hl g h

/-! ## Lengths -/

variable {name rest : Text} {pending : Option Text} {ks : List Capture}

/-- The number of characters in texts. -/
def total (texts : List Text) : Nat :=
  (texts.map List.length).sum

theorem length_fill (w : Field → Text) (ts : List Token) :
    (fill w ts).length = total ((placeholders ts).map (valueAt w)) + total (literals ts) := by
  induction ts with
  | nil => rfl
  | cons t ts ih =>
    cases t with
    | literal l =>
      simp only [fill, placeholders, literals, total, List.length_append, List.map_cons,
        List.sum_cons] at ih ⊢
      omega
    | placeholder name =>
      simp only [fill, placeholders, literals, total, List.length_append, List.map_cons,
        List.sum_cons] at ih ⊢
      omega

/-- What is captured and the literals fit into the text that is read. -/
theorem total_le_of_read? (h : read? ts rest pending used = some ks) :
    total (ks.map (·.text)) + total (literals ts) ≤ rest.length := by
  induction ts generalizing rest pending used ks with
  | nil =>
    cases pending with
    | none =>
      cases h
      exact Nat.zero_le _
    | some name =>
      rw [read?] at h
      split at h
      · cases h
      · cases h
        simp [total, literals]
  | cons t ts ih =>
    cases t with
    | placeholder name =>
      rw [read?] at h
      split at h
      · cases h
      · exact ih h
    | literal l =>
      rw [read?] at h
      split at h
      · cases h
      · next before after hcut =>
        obtain ⟨later, hl, rfl⟩ := Option.map_eq_some_iff.1 h
        have hrest := congrArg List.length (Text.cut?_eq_some hcut)
        have hlater := ih hl
        have hbefore : total ((pending.toList.map fun f => Capture.mk f before).map (·.text)) ≤
            before.length := by
          cases pending <;> simp [total]
        simp only [List.length_append] at hrest
        simp only [total, literals, List.map_append, List.map_cons, List.sum_append,
          List.sum_cons] at hlater hbefore ⊢
        omega

/-- Captures that are as long as the values under their names are as long as they together. -/
theorem total_le_of_captures (hn : ks.map (·.name) = placeholders ts)
    (hlen : ∀ k ∈ ks, (valueAt w k.name).length ≤ k.text.length) :
    total ((placeholders ts).map (valueAt w)) ≤ total (ks.map (·.text)) := by
  rw [← hn, total, total, List.map_map, List.map_map, List.map_map]
  exact List.sum_le_sum hlen

/-! ## Reading what was filled in -/

/-- A literal at the beginning is marked there. -/
theorem read?_literal_append :
    read? (.literal l :: ts) (l ++ rest) none used = some ks ↔
      read? ts rest none (used ++ [l]) = some ks := by
  have hcut : Text.cut? l (l ++ rest) = some ([], rest) := by
    refine Text.cut?_eq_some_iff.2 ⟨rfl, Text.firstFrom_iff.2 ⟨Nat.le_refl 0, ?_, ?_⟩⟩
    · exact Text.occursAt_append [] l rest
    · intro k _ hk
      cases hk
  rw [read?, hcut]
  simp

/-- What is filled in is read back if the pattern is unambiguous for it. -/
theorem read?_fill : ∀ (ts : List Token) {used : List Text}, OfFields ts → Apart ts →
    (∀ name ∈ placeholders ts, valueAt w name ≠ []) → Unambiguous w used ts →
    read? ts (fill w ts) none used =
      some ((placeholders ts).map fun name => ⟨name, valueAt w name⟩)
  | [], _, _, _, _, _ => rfl
  | .literal l :: ts, used, hall, hapart, hne, hun => by
    rw [fill, placeholders, read?_literal_append]
    exact read?_fill ts hall.tail (apart_literal_cons.1 hapart) hne (unambiguous_literal_cons.1 hun)
  | [.placeholder name], used, hall, _, hne, hun => by
    obtain ⟨f, rfl⟩ := hall.head
    have hf : w f ≠ [] := by simpa [placeholders] using hne
    have hno := unambiguous_placeholder.1 hun
    have hfit : ¬ (w f = [] ∨ ∃ l ∈ used, Text.occursIn l (w f) = true) := by
      rintro (h | ⟨l, hl, hocc⟩)
      · exact hf h
      · exact hno l hl (Text.occursIn_iff.1 hocc)
    simp only [read?, fill, placeholders, valueAt_name, List.append_nil, Option.isSome_none,
      Bool.false_eq_true, isKnown_name, not_true_eq_false, or_self, if_false, if_neg hfit,
      List.map_cons, List.map_nil]
  | .placeholder name :: .placeholder other :: ts, _, _, hapart, _, _ =>
    absurd hapart not_apart_placeholders
  | .placeholder name :: .literal l :: ts, used, hall, hapart, hne, hun => by
    obtain ⟨f, rfl⟩ := hall.head
    obtain ⟨hf, hrest⟩ := unambiguous_placeholder_literal.1 hun
    have hcut : Text.cut? l (w f ++ l ++ fill w ts) = some (w f, fill w ts) :=
      Text.cut?_eq_some_iff.2 ⟨rfl, (Text.firstFrom_append_iff _ _ _).2 hf⟩
    have hlater := read?_fill ts hall.tail.tail (apart_placeholder_literal.1 hapart)
      (fun name hn => hne name (List.mem_cons_of_mem _ hn)) hrest
    rw [read?, if_neg (by simp [isKnown_name]), fill, fill, valueAt_name, ← List.append_assoc,
      read?, hcut]
    simp only [hlater]
    simp [placeholders]

/-- If what is read back is as long as what was filled in, the pattern is unambiguous for it: a
literal that was found too early makes a capture too short, and none can be too long. -/
theorem unambiguous_of_read? : ∀ (ts : List Token) {used : List Text} {ks : List Capture},
    OfFields ts → read? ts (fill w ts) none used = some ks →
    (∀ k ∈ ks, (valueAt w k.name).length ≤ k.text.length) → Unambiguous w used ts
  | [], _, _, _, _, _ => unambiguous_nil
  | .literal l :: ts, used, ks, hall, hread, hlen => by
    rw [fill, read?_literal_append] at hread
    exact unambiguous_literal_cons.2 (unambiguous_of_read? ts hall.tail hread hlen)
  | [.placeholder name], used, ks, hall, hread, _ => by
    obtain ⟨f, rfl⟩ := hall.head
    simp only [read?, fill, valueAt_name, List.append_nil, Option.isSome_none, Bool.false_eq_true,
      isKnown_name, not_true_eq_false, or_self, if_false] at hread
    refine unambiguous_placeholder.2 fun l hl hocc => ?_
    rw [if_pos (.inr ⟨l, hl, Text.occursIn_iff.2 hocc⟩)] at hread
    cases hread
  | .placeholder name :: .placeholder other :: ts, _, _, hall, hread, _ => by
    obtain ⟨f, rfl⟩ := hall.head
    simp [read?, isKnown_name] at hread
  | .placeholder name :: .literal l :: ts, used, ks, hall, hread, hlen => by
    obtain ⟨f, rfl⟩ := hall.head
    have htext : fill w (.placeholder f.name :: .literal l :: ts) = w f ++ l ++ fill w ts := by
      rw [fill, fill, valueAt_name, List.append_assoc]
    rw [htext, read?, if_neg (by simp [isKnown_name])] at hread
    obtain ⟨s, hs, later, hl, rfl⟩ := (read?_literal (Nat.zero_le _)).1 hread
    have hlen₀ : (w f ++ l ++ fill w ts).length = (w f).length + l.length + (fill w ts).length := by
      rw [List.length_append, List.length_append]
    have hend := end_le_length hs
    -- the first capture is long enough, and the others leave it no more
    have hfirst : (w f).length ≤ s := by
      have := hlen ⟨f.name, Text.between 0 s (w f ++ l ++ fill w ts)⟩ (by simp)
      rw [valueAt_name, Text.between, List.length_take] at this
      omega
    have hlater := total_le_of_captures (map_name_of_read? hl)
      fun k hk => hlen k (List.mem_append_right _ hk)
    have htotal := total_le_of_read? hl
    have hfill := length_fill w ts
    rw [List.length_drop] at htotal
    obtain rfl : s = (w f).length := by omega
    rw [← List.length_append, List.drop_left] at hl
    exact unambiguous_placeholder_literal.2 ⟨(Text.firstFrom_append_iff _ _ _).1 hs,
      unambiguous_of_read? ts hall.tail.tail hl fun k hk => hlen k (List.mem_append_right _ hk)⟩

end Pattern

open Pattern

/-- A name rendered from a valid tag along a pattern of different fields, none of them empty, gives
back the values of these fields, and no other, exactly if the pattern is unambiguous for them. -/
theorem render_extract_iff (marker : Option Text) {p : Text} {t : Tag} {v : Field → Text}
    (hp : Text.strip p = p) (hall : OfFields (tokens p)) (hone : placeholders (tokens p) ≠ [])
    (hdistinct : (placeholders (tokens p)).Nodup) (hapart : Apart (tokens p))
    (ht : ∀ f, t.value f = .text (v f)) (hv : ValidTexts v) (hs : ∀ f, Text.strip (v f) = v f)
    (hfull : ∀ f : Field, f.name ∈ placeholders (tokens p) → v f ≠ []) :
    ∃ name ws, (Edit.render (.text p) .null).run (.editable t) = (⟨.ok name, ws⟩, .editable t) ∧
      ((Edit.extract (.ofMarker marker) (.text name) (.text p) .null .null).run (.editable .empty) =
          (⟨.ok (placeholders (tokens p)).length, []⟩, .editable (.ofTexts fun f =>
            if f.name ∈ placeholders (tokens p) then rendered v f else [])) ↔
        Unambiguous (rendered v) [] (tokens p)) := by
  refine ⟨_, _, Edit.run_eq_ok_iff.2 (Edit.render_run ht hv hs hall hfull), ?_⟩
  have hw : ∀ f : Field, f.name ∈ placeholders (tokens p) →
      rendered v f ≠ [] ∧ Text.strip (rendered v f) = rendered v f :=
    fun f hf => ⟨rendered_ne_nil (hfull f hf), strip_rendered hs f⟩
  have hname := strip_fill hp hall hw
  have hpne : p ≠ [] := by
    rintro rfl
    exact hone rfl
  have hne : Text.strip (fill (rendered v) (tokens p)) ≠ [] := by
    rw [hname]
    exact fill_ne_nil hall (fun f hf => (hw f hf).1) (unparse_tokens p ▸ normalize_ne_nil hpne)
  have htokens : tokens (normalize (Text.strip p)) = tokens p := by
    rw [hp, tokens_normalize]
  have hhas : hasPlaceholder (normalize (Text.strip p)) = true := by
    rw [hp, hasPlaceholder_iff]
    exact hone
  rw [Edit.run_eq_ok_iff, Edit.extract_run_plain hne hhas, htokens, hname,
    Edit.onCopy_readAlong_eq_ok_iff Tag.nodup_keys_empty]
  constructor
  · rintro ⟨captures, hread, hstore, -⟩
    have hnames := map_name_of_read? hread
    have hfield : ∀ k ∈ captures, ∃ f : Field, k.name = f.name := by
      intro k hk
      exact hall k.name (hnames ▸ List.mem_map_of_mem hk)
    rw [Conversion.stores_of_fields hfield] at hstore
    refine unambiguous_of_read? (tokens p) hall hread fun k hk => ?_
    obtain ⟨f, hf⟩ := hfield k hk
    have hused : f.name ∈ placeholders (tokens p) := by
      rw [← hnames, ← hf]
      exact List.mem_map_of_mem hk
    have hlen := Edit.length_le_of_stored (hnames ▸ hdistinct) hstore hk hf
    rw [if_pos hused] at hlen
    rw [hf, valueAt_name]
    exact hlen
  · intro hun
    have hread := read?_fill (tokens p) hall hapart (fun name hn => by
      obtain ⟨f, rfl⟩ := hall name hn
      rw [valueAt_name]
      exact (hw f hn).1) hun
    have hstores := @Conversion.stores_of_fields (.ofMarker marker)
      ((placeholders (tokens p)).map fun name => ⟨name, valueAt (rendered v) name⟩) fun k hk => by
        obtain ⟨name, hn, rfl⟩ := List.mem_map.1 hk
        exact hall name hn
    refine ⟨_, hread, ?_, ?_⟩
    · rw [hstores]
      refine Edit.storeEach_valid hv.rendered (strip_rendered hs) (fun f => .inr rfl) ?_
      intro name hn
      obtain ⟨f, rfl⟩ := hall name hn
      exact ⟨f, rfl, (hw f hn).1⟩
    · rw [hstores, List.length_map]

/-- A track number and a title, with a dash between them. -/
theorem render_extract_song :
    let p := "((TRACKNUM)) - ((title))".toList
    let v : Field → Text := fun
      | .title => "Song".toList
      | .trackNumber => "7".toList
      | _ => []
    ∃ name ws, (Edit.render (.text p) .null).run (.editable (.ofTexts v)) =
        (⟨.ok name, ws⟩, .editable (.ofTexts v)) ∧
      (Edit.extract .null (.text name) (.text p) .null .null).run (.editable .empty) =
        (⟨.ok 2, []⟩, .editable (.ofTexts fun
          | .title => "Song".toList
          | .trackNumber => "07".toList
          | _ => [])) := by
  intro p v
  have hts : tokens p = [.placeholder Field.trackNumber.name, .literal " - ".toList,
      .placeholder Field.title.name] := by
    decide +kernel
  have hs : ∀ f, Text.strip (v f) = v f := by
    intro f
    cases f <;> decide
  have hv : ValidTexts v :=
    ⟨by decide, by decide, .inl rfl, .inr (isTrackNumber_iff.1 (by decide)),
      fun f => (Text.strip_eq_self_iff.1 (hs f)).1⟩
  have hnumber : rendered v .trackNumber = "07".toList := by decide
  have hcut : Text.cut? " - ".toList ("07".toList ++ " - ".toList) = some ("07".toList, []) := by
    decide
  have hun : Unambiguous (rendered v) [] (tokens p) := by
    rw [hts]
    refine unambiguous_placeholder_literal.2 ⟨?_, unambiguous_placeholder.2 (by decide)⟩
    rw [hnumber]
    exact (Text.cut?_eq_some_iff.1 hcut).2
  have hfields : OfFields (tokens p) := by
    rw [hts]
    intro name hn
    rcases List.mem_cons.1 hn with rfl | hn
    · exact ⟨_, rfl⟩
    · exact ⟨_, List.mem_singleton.1 hn⟩
  have hfull : ∀ f : Field, f.name ∈ placeholders (tokens p) → v f ≠ [] := by
    rw [hts]
    intro f
    cases f <;> decide
  have hkept :
      (fun f : Field => if f.name ∈ placeholders (tokens p) then rendered v f else []) = fun
        | .title => "Song".toList
        | .trackNumber => "07".toList
        | _ => [] := by
    rw [hts]
    funext f
    cases f <;> decide
  obtain ⟨name, ws, hrender, hextract⟩ := render_extract_iff none (p := p) (by decide) hfields
    (by rw [hts]; decide) (by rw [hts]; decide) (by rw [hts]; decide) (Tag.value_ofTexts v) hv hs
    hfull
  have hback := hextract.2 hun
  rw [hkept, hts] at hback
  exact ⟨name, ws, hrender, hback⟩

end NameTag
