import NameTag.Proofs.Extract.Leftmost
import NameTag.Proofs.Extract.Storing
import NameTag.Proofs.Render
import NameTag.Proofs.Stored

/-!
# From a name to a tag and back

A name that a pattern covers from its first to its last character is made up of the literals and the
texts captured between them (`fill_eq_drop`), so a tag that kept these texts as they are renders to
the name again (`extract_render`).
-/

namespace NameTag

namespace Pattern

/-! ## Names that are covered -/

variable {name l : Text} {w : Field → Text} {c s : Nat}

/-- What stands before the mark of a literal, the literal and what follows it. -/
theorem drop_eq_of_firstFrom (hc : c ≤ name.length) (h : Text.FirstFrom l name c s) :
    name.drop c = Text.between c s name ++ l ++ name.drop (s + l.length) :=
  Text.cut?_eq_some ((Text.cut?_drop_eq_some_iff hc).2 ⟨s, h, rfl, rfl⟩)

/-- A literal that stands at the beginning is marked there. -/
theorem eq_of_firstFrom_isPrefix (hc : c ≤ name.length) (h : Text.FirstFrom l name c s)
    (hl : l <+: name.drop c) : s = c :=
  Nat.le_antisymm (h.2 ⟨Nat.le_refl c, hc, hl⟩) h.1.1

/-- The literals and the captured texts make up what is left of the name, if a literal at the
beginning stands there at once and one at the end is the last of the name. -/
theorem fill_eq_drop : ∀ (ts : List Token) {c : Nat} {ss : List Nat}, c ≤ name.length →
    WellFormed ts → Joined ts → Marks name c (literals ts) ss →
    (∀ l, ts.head? = some (.literal l) → l <+: name.drop c) →
    ((∀ f, ts.getLast? ≠ some (.placeholder f)) → endOf c (literals ts) ss = name.length) →
    (∀ k ∈ captures name c ts ss, valueAt w k.name = k.text) → fill w ts = name.drop c
  | [], c, ss, _, _, _, hm, _, hlast, _ => by
    rw [literals, marks_nil.1 hm] at hlast
    have hend : c = name.length := hlast (by simp)
    rw [fill, hend, List.drop_length]
  | .literal l :: ts, c, ss, hc, hw, hj, hm, hhead, hlast, hk => by
    obtain ⟨s, ss, rfl, hs, hlater⟩ := marks_cons.1 hm
    obtain rfl := eq_of_firstFrom_isPrefix hc hs (hhead l rfl)
    have hrest : fill w ts = name.drop (s + l.length) := by
      refine fill_eq_drop ts (end_le_length hs) (wellFormed_literal_cons.1 hw) hj.tail hlater
        (fun m hm => absurd hm (hj.head?_ne_literal m)) (fun hno => hlast fun f hf => ?_) hk
      exact hno f (getLast?_literal_cons.1 hf)
    have hsplit := drop_eq_of_firstFrom hc hs
    rw [Text.between, Nat.sub_self, List.take_zero, List.nil_append] at hsplit
    rw [fill, hrest, hsplit]
  | [.placeholder f], c, ss, _, _, _, _, _, _, hk => by
    have hf : valueAt w f = name.drop c := hk ⟨f, name.drop c⟩ (by simp [captures])
    rw [fill, fill, hf, List.append_nil]
  | .placeholder f :: .placeholder g :: ts, _, _, _, hw, _, _, _, _, _ =>
    absurd hw not_wellFormed_placeholders
  | .placeholder f :: .literal l :: ts, c, ss, hc, hw, hj, hm, _, hlast, hk => by
    obtain ⟨s, ss, rfl, hs, hm⟩ := marks_cons.1 hm
    rw [captures, List.forall_mem_cons] at hk
    have hrest : fill w ts = name.drop (s + l.length) := by
      refine fill_eq_drop ts (end_le_length hs) (wellFormed_placeholder_literal.1 hw).2 hj.tail.tail
        hm (fun m hm => absurd hm (hj.tail.head?_ne_literal m)) (fun hno => hlast fun g hg => ?_)
        hk.2
      rw [List.getLast?_cons_cons] at hg
      exact hno g (getLast?_literal_cons.1 hg)
    rw [drop_eq_of_firstFrom hc hs, fill, fill, hrest, hk.1, List.append_assoc]

/-- The same for the tokens of a pattern, of which there is at least one. -/
theorem fill_tokens {p : Text} {marks : List Nat} (hne : tokens p ≠ [])
    (hw : WellFormed (tokens p)) (hm : Marks name 0 (literals (tokens p)) marks)
    (hfirst : ∀ l, (tokens p).head? = some (.literal l) → l <+: name)
    (hlast : ∀ l, (tokens p).getLast? = some (.literal l) →
      endOf 0 (literals (tokens p)) marks = name.length)
    (hk : ∀ k ∈ captures name 0 (tokens p) marks, valueAt w k.name = k.text) :
    fill w (tokens p) = name := by
  refine fill_eq_drop (c := 0) (tokens p) (Nat.zero_le _) hw (joined_tokens p) hm hfirst ?_ hk
  intro hno
  cases hend : (tokens p).getLast? with
  | none => exact absurd (List.getLast?_eq_none_iff.1 hend) hne
  | some last =>
    cases last with
    | literal l => exact hlast l hend
    | placeholder f => exact absurd hend (hno f)

end Pattern

open Pattern

/-- A name that a pattern of different fields covers renders again from the tag that an extraction
without a warning leaves, if the captured texts can be stored as they are: none is empty or has a
blank at its ends, and the track number is written as it is rendered. -/
theorem extract_render {marker : Value} {source pattern : Text} {n : Nat} {t : Tag}
    {marks : List Nat}
    (h : (Edit.extract marker (.text source) (.text pattern) .null .null).run (.editable .empty) =
      (⟨.ok n, []⟩, .editable t))
    (hall : OfFields (tokens (Text.strip pattern)))
    (hdistinct : (placeholders (tokens (Text.strip pattern))).Nodup)
    (hm : Marks (Text.strip source) 0 (literals (tokens (Text.strip pattern))) marks)
    (hfirst : ∀ l, (tokens (Text.strip pattern)).head? = some (.literal l) →
      l <+: Text.strip source)
    (hlast : ∀ l, (tokens (Text.strip pattern)).getLast? = some (.literal l) →
      endOf 0 (literals (tokens (Text.strip pattern))) marks = (Text.strip source).length)
    (hspans : ∀ k ∈ captures (Text.strip source) 0 (tokens (Text.strip pattern)) marks,
      k.text ≠ [] ∧ Text.strip k.text = k.text)
    (hnumber : ∀ k ∈ captures (Text.strip source) 0 (tokens (Text.strip pattern)) marks,
      k.name = Field.trackNumber.name → k.text = Text.ofNatPadded 2 (Text.decimalValue k.text)) :
    ∃ ws, (Edit.render (.text (Text.strip pattern)) .null).run (.editable t) =
      (⟨.ok (Text.strip source), ws⟩, .editable t) := by
  generalize hp : Text.strip pattern = p at *
  generalize hname : Text.strip source = name at *
  obtain ⟨hne, hhas⟩ := Edit.readable_of_extract (Edit.run_eq_ok_iff.1 h)
  have htokens : tokens (normalize (Text.strip pattern)) = tokens p := by
    rw [hp, tokens_normalize]
  rw [Edit.run_eq_ok_iff, Edit.extract_run_plain hne hhas, htokens, hname,
    Edit.onCopy_readAlong_eq_ok_iff Tag.nodup_keys_empty] at h
  -- what was read is what stands between the marks, and it was stored as it is
  obtain ⟨ks, hread, hstore, -⟩ := h
  obtain ⟨hwf, marks', hm', -, rfl⟩ := (read?_eq_some_iff (tokens p) (Nat.zero_le _)).1 hread
  obtain rfl := hm.unique hm'
  have hnames := map_name_captures (tokens p) hwf hm
  have hfield : ∀ k ∈ captures name 0 (tokens p) marks, ∃ f : Field, k.name = f.name := by
    intro k hk
    exact hall k.name (hnames ▸ List.mem_map_of_mem hk)
  rw [Conversion.stores_of_fields hfield, Tag.empty_eq_ofTexts] at hstore
  obtain ⟨v, rfl, hv, hin, hout⟩ := Edit.storeEach_silent hstore validTexts_empty
    (hnames ▸ hdistinct) fun k hk => (hspans k hk).2
  rw [hnames] at hout
  have hcapture : ∀ f : Field, f.name ∈ placeholders (tokens p) →
      v f ≠ [] ∧ Text.strip (v f) = v f := by
    intro f hf
    obtain ⟨k, hk, hkf⟩ := List.mem_map.1 (hnames ▸ hf)
    have hkv := hin k hk
    rw [hkf, valueAt_name] at hkv
    rw [hkv]
    exact hspans k hk
  have hstripped : ∀ f, Text.strip (v f) = v f := by
    intro f
    by_cases hf : f.name ∈ placeholders (tokens p)
    · exact (hcapture f hf).2
    · rw [hout f hf]
      rfl
  have hrender : Edit.render (.text p) .null ⟨.editable (.ofTexts v), []⟩ = _ :=
    Edit.render_run (Tag.value_ofTexts v) hv hstripped hall fun f hf => (hcapture f hf).1
  have htokensne : tokens p ≠ [] := by
    intro hnil
    rw [hp, hasPlaceholder_iff] at hhas
    exact hhas (congrArg placeholders hnil)
  have hfill : fill (rendered v) (tokens p) = name := by
    refine fill_tokens htokensne hwf hm hfirst hlast fun k hk => ?_
    obtain ⟨f, hf⟩ := hfield k hk
    have hkv := hin k hk
    rw [hf, valueAt_name] at hkv ⊢
    rw [rendered]
    split
    · next hn => rw [hkv, ← hnumber k hk (hn.1 ▸ hf)]
    · exact hkv
  rw [hfill] at hrender
  exact ⟨_, Edit.run_eq_ok_iff.2 hrender⟩

/-- A number in brackets, a comment that leaves room for it, and a year in parentheses. -/
theorem extract_render_live :
    let source := " [07] live (1999)".toList
    let name := "[07] live (1999)".toList
    let pattern := "[((TRACKNUM))] ((comment)) (((YEAR)))".toList
    ∃ t, (Edit.extract .null (.text source) (.text pattern) .null .null).run (.editable .empty) =
        (⟨.ok 3, []⟩, .editable t) ∧
      ∃ ws, (Edit.render (.text pattern) .null).run (.editable t) = (⟨.ok name, ws⟩, .editable t) := by
  intro source name pattern
  have hname : Text.strip source = name := by decide
  have hpattern : Text.strip pattern = pattern := by decide
  have hts : tokens pattern = [.literal "[".toList, .placeholder Field.trackNumber.name,
      .literal "] ".toList, .placeholder Field.comment.name, .literal " (".toList,
      .placeholder Field.year.name, .literal ")".toList] := by
    decide +kernel
  have hall : OfFields (tokens pattern) := by
    rw [hts]
    simp [OfFields, placeholders]
  have hmarks : Marks name 0 (literals (tokens pattern)) [0, 3, 9, 15] := by
    rw [hts]
    decide
  have hcaptures : captures name 0 (tokens pattern) [0, 3, 9, 15] =
      [⟨Field.trackNumber.name, "07".toList⟩, ⟨Field.comment.name, "live".toList⟩,
        ⟨Field.year.name, "1999".toList⟩] := by
    rw [hts]
    decide
  have hwf : WellFormed (tokens pattern) := by
    rw [hts]
    exact ⟨by decide, by decide⟩
  have hfits : LastFits name 0 [] (tokens pattern) [0, 3, 9, 15] := by
    rw [hts]
    simp [LastFits]
  have hread : read? (tokens pattern) (name.drop 0) none [] = _ :=
    (read?_eq_some_iff (tokens pattern) (Nat.zero_le name.length)).2
      ⟨hwf, _, hmarks, hfits, hcaptures.symm⟩
  have htokens : tokens (normalize (Text.strip pattern)) = tokens pattern := by
    rw [hpattern, tokens_normalize]
  have hhas : hasPlaceholder (normalize (Text.strip pattern)) = true := by
    rw [hpattern]
    decide +kernel
  have hextract : (Edit.extract .null (.text source) (.text pattern) .null .null).run
      (.editable .empty) = (⟨.ok 3, []⟩, .editable (.ofTexts fun f =>
        if f = .comment then "live".toList
        else if f = .year then "1999".toList
        else if f = .trackNumber then "07".toList
        else [])) := by
    rw [Edit.run_eq_ok_iff, Edit.extract_run_plain (by rw [hname]; decide) hhas, htokens, hname,
      Edit.onCopy_readAlong_eq_ok_iff Tag.nodup_keys_empty]
    exact ⟨_, hread, rfl, rfl⟩
  have hmarks' : Marks (Text.strip source) 0 (literals (tokens (Text.strip pattern)))
      [0, 3, 9, 15] := by
    rw [hname, hpattern]
    exact hmarks
  have hrender := fun hall hdistinct => extract_render hextract hall hdistinct hmarks'
  rw [hname, hpattern, hcaptures] at hrender
  refine ⟨_, hextract, hrender hall ?_ ?_ ?_ (by decide) (by decide)⟩
  · rw [hts]
    decide
  · rw [hts]
    rintro l ⟨⟩
    decide
  · rw [hts]
    intro l _
    decide

end NameTag
