import NameTag.Proofs.Extract.Leftmost
import NameTag.Proofs.Session
import NameTag.Proofs.Stored
import NameTag.Proofs.Text.Capitals

/-!
# The case of stored texts

A captured text is put into the case mode before it is stripped, so the blanks that stood around a
literal of the pattern are still there. In two modes that makes no difference to what is stored. In
the third, a blank before the text takes the place of the first character: the text is stored in
lower case throughout (`Session.parse_inCase`).
-/

namespace NameTag

/-! ## The first character of a cut text -/

namespace Text

variable {c : Char} {t : Text}

/-- The first character of a text in the mode that capitalises it is no small letter. -/
theorem not_isLower_head?_inCase_first (h : c ∈ (inCase .first t).head?) : c.isLower = false := by
  have hfirst : inCase .first t = capitalizeFirst (lower t) := rfl
  rw [hfirst] at h
  cases hl : lower t with
  | nil =>
    rw [hl] at h
    cases h
  | cons a s =>
    rw [hl, capitalizeFirst, List.head?_append_of_ne_nil _ (upperChar_ne_nil a)] at h
    exact not_isLower_of_upperChar (List.mem_of_mem_head? h)

end Text

namespace Value

variable {marker : Value} {limit : Option Nat} {s t : Text}

/-- Trimming leaves the first character of a stripped text where it is. -/
theorem head?_of_trimTo (h : marker.trimTo limit t = .ok s) (hn : ∀ n ∈ limit, 0 < n) :
    s.head? = (Text.strip t).head? := by
  rcases trimTo_cases h with ⟨rfl, -⟩ | ⟨n, hlimit, hlt, hcut⟩
  · rfl
  · obtain ⟨m, rfl⟩ := exists_shorten hcut
    exact Text.head?_shorten (Text.leftStripped_strip t) (hn n hlimit) hlt

end Value

namespace Session

open Pattern

/-- What a parse that succeeds leaves in a text field: the captured text in the mode, or in lower
case if its first character was to be capitalised and is a blank, trimmed to what the field may hold.
The first character of a text that was captured without a blank before it is capitalised. -/
theorem parse_inCase {s s' : Session} {t t' : Tag} {source pattern v : Text} {mode : Value}
    {m : CaseMode} {n : Nat} {ws : List Warning} {marks : List Nat} {f : Field}
    (hmode : CaseMode.ofValue? mode = some m) (ht : t.keys.Nodup)
    (h : parse (.editable t) (.text source) (.text pattern) mode .null s =
      ((.ok ⟨.ok n, ws⟩, .editable t'), s'))
    (hone : ((placeholders (tokens (normalize (Text.strip pattern)))).filter
      (· ≠ Field.ignored)).Nodup)
    (hf : f ≠ .year ∧ f ≠ .trackNumber)
    (hc : f = .comment →
      Field.trackNumber.name ∉ placeholders (tokens (normalize (Text.strip pattern))))
    (hm : Marks (Text.strip source) 0 (literals (tokens (normalize (Text.strip pattern)))) marks)
    (hv : ⟨f.name, v⟩ ∈
      captures (Text.strip source) 0 (tokens (normalize (Text.strip pattern))) marks) :
    ∃ r, t'.value f = .text r ∧
      s.settings.marker.trimTo (t.limit f)
        (if m = .first ∧ ¬ v.LeftStripped then Text.lower (Text.strip v)
          else Text.inCase m (Text.strip v)) = .ok r ∧
      (m = .first → v.LeftStripped → ∀ c ∈ r.head?, c.isAlpha = true → c.isUpper = true) := by
  generalize hts : tokens (normalize (Text.strip pattern)) = ts at *
  generalize hname : Text.strip source = name at *
  have hrun : (Edit.extract s.settings.marker (.text source) (.text pattern) mode .null).run
      (.editable t) = (⟨.ok n, ws⟩, .editable t') := by
    rw [parse, perform_run, Prod.mk.injEq, Prod.mk.injEq] at h
    obtain ⟨⟨hreport, hsubject⟩, -⟩ := h
    exact Prod.ext (Outcome.eq_of_report hreport) hsubject
  rw [Edit.run_eq_ok_iff] at hrun
  obtain ⟨hs, hp⟩ := Edit.readable_of_extract hrun
  rw [Edit.extract_run_mode hs hp hmode, hts, hname, Edit.onCopy_readAlong_eq_ok_iff ht] at hrun
  obtain ⟨ks, hread, hstore, -⟩ := hrun
  obtain ⟨hwf, marks', hm', -, rfl⟩ := (read?_eq_some_iff ts (Nat.zero_le _)).1 hread
  obtain rfl := hm.unique hm'
  have hnames := map_name_captures ts hwf hm
  have hstored := Edit.value_storeEach (f := f) hstore
    (by rw [Conversion.map_name_stores, hnames]; exact hone) (Conversion.mem_stores hv) rfl hf
    fun hcomment hmem => hc hcomment (by
      rw [Conversion.map_name_stores, hnames] at hmem
      exact List.mem_of_mem_filter hmem)
  obtain ⟨r, hcut, hvalue⟩ := hstored
  have hconvert : Conversion.convert ⟨s.settings.marker, none, some m⟩ v = Text.inCase m v := rfl
  rw [hconvert, ← Value.trimTo_strip, Text.strip_inCase] at hcut
  refine ⟨r, hvalue, hcut, ?_⟩
  rintro rfl hl c hhead halpha
  rw [if_neg (by simp [hl])] at hcut
  rw [Value.head?_of_trimTo hcut (t.limit_pos f), Text.strip_inCase,
    if_neg (by simp [Text.leftStripped_strip])] at hhead
  have hor : (c.isUpper || c.isLower) = true := halpha
  rw [Text.not_isLower_head?_inCase_first hhead, Bool.or_false] at hor
  exact hor

/-! ## Blanks around a dash -/

theorem tokens_dash : tokens (normalize (Text.strip "((ARTIST))-((TITLE))".toList)) =
    [.placeholder Field.artist.name, .literal "-".toList, .placeholder Field.title.name] := by
  decide +kernel

theorem marks_dash : Marks (Text.strip "Iron Maiden - RAINMAKER".toList) 0
    (literals (tokens (normalize (Text.strip "((ARTIST))-((TITLE))".toList)))) [12] := by
  rw [tokens_dash]
  decide

theorem captures_dash : captures (Text.strip "Iron Maiden - RAINMAKER".toList) 0
    (tokens (normalize (Text.strip "((ARTIST))-((TITLE))".toList))) [12] =
      [⟨Field.artist.name, "Iron Maiden ".toList⟩, ⟨Field.title.name, " RAINMAKER".toList⟩] := by
  rw [tokens_dash]
  decide

theorem parse_dash :
    parse (.editable .empty) (.text "Iron Maiden - RAINMAKER".toList)
      (.text "((ARTIST))-((TITLE))".toList) (.int 1) .null {} =
      ((.ok ⟨.ok 2, []⟩, .editable (.ofTexts fun
        | .artist => "Iron maiden".toList
        | .title => "rainmaker".toList
        | _ => [])), {}) := by
  have hhas : hasPlaceholder (normalize (Text.strip "((ARTIST))-((TITLE))".toList)) = true := by
    decide +kernel
  have hwf : WellFormed (tokens (normalize (Text.strip "((ARTIST))-((TITLE))".toList))) := by
    rw [tokens_dash]
    exact ⟨by decide, by decide⟩
  have hfits : LastFits (Text.strip "Iron Maiden - RAINMAKER".toList) 0 []
      (tokens (normalize (Text.strip "((ARTIST))-((TITLE))".toList))) [12] := by
    rw [tokens_dash]
    intro _
    decide
  have hread := (read?_eq_some_iff _ (Nat.zero_le _)).2
    ⟨hwf, _, marks_dash, hfits, captures_dash.symm⟩
  have hrun : (Edit.extract .null (.text "Iron Maiden - RAINMAKER".toList)
      (.text "((ARTIST))-((TITLE))".toList) (.int 1) .null).run (.editable .empty) =
      (⟨.ok 2, []⟩, .editable (.ofTexts fun
        | .artist => "Iron maiden".toList
        | .title => "rainmaker".toList
        | _ => [])) := by
    rw [Edit.run_eq_ok_iff, Edit.extract_run_mode (m := .first) (by decide) hhas (by decide),
      Edit.onCopy_readAlong_eq_ok_iff Tag.nodup_keys_empty]
    exact ⟨_, hread, rfl, rfl⟩
  have hmarker : ({} : Session).settings.marker = .null := rfl
  rw [parse, perform_run, hmarker, hrun]
  rfl

/-- The blank behind the artist makes no difference. -/
theorem parse_inCase_artist :
    ∃ t', (parse (.editable .empty) (.text "Iron Maiden - RAINMAKER".toList)
        (.text "((ARTIST))-((TITLE))".toList) (.int 1) .null {}).1 =
          (.ok ⟨.ok 2, []⟩, .editable t') ∧
      ∃ r, t'.value .artist = .text r ∧
        Value.null.trimTo (Tag.empty.limit .artist)
          (Text.inCase .first (Text.strip "Iron Maiden ".toList)) = .ok r := by
  have hone : ((placeholders (tokens (normalize (Text.strip "((ARTIST))-((TITLE))".toList)))).filter
      (· ≠ Field.ignored)).Nodup := by
    rw [tokens_dash]
    decide
  obtain ⟨r, hvalue, hcut, -⟩ := parse_inCase (f := .artist) (v := "Iron Maiden ".toList)
    (m := .first) (by decide) Tag.nodup_keys_empty parse_dash hone (by decide)
    (fun hc => by cases hc) marks_dash (by rw [captures_dash]; exact List.mem_cons_self)
  rw [if_neg (by decide)] at hcut
  rw [parse_dash]
  exact ⟨_, rfl, r, hvalue, hcut⟩

/-- Because of the blank before it, the title is not capitalised as it would be without. -/
theorem parse_title_after_blank :
    ∃ t', (parse (.editable .empty) (.text "Iron Maiden - RAINMAKER".toList)
        (.text "((ARTIST))-((TITLE))".toList) (.int 1) .null {}).1 =
          (.ok ⟨.ok 2, []⟩, .editable t') ∧
      ⟨Field.title.name, " RAINMAKER".toList⟩ ∈
        captures (Text.strip "Iron Maiden - RAINMAKER".toList) 0
          (tokens (normalize (Text.strip "((ARTIST))-((TITLE))".toList))) [12] ∧
      t'.value .title = .text "rainmaker".toList ∧
      Value.null.trimTo (Tag.empty.limit .title)
        (Text.inCase .first (Text.strip " RAINMAKER".toList)) = .ok "Rainmaker".toList := by
  rw [parse_dash, captures_dash]
  exact ⟨_, rfl, List.mem_cons_of_mem _ List.mem_cons_self, Tag.value_ofTexts _ _, rfl⟩

end Session

end NameTag
