import NameTag.Proofs.Extract.Leftmost
import NameTag.Proofs.Extract.Success
import NameTag.Proofs.Text.Split

/-!
# Names split at a character

Along a pattern of text fields with one character between neighbours, a name is split at that
character (`Edit.extract_separated`). The extraction succeeds exactly if the pieces are as many as
the placeholders and the last one is not empty, and then there is no other way to read the name
along the pattern. `Pattern.reading` is the reading with its problems, which are those of the
extraction where every captured text can be stored.
-/

namespace NameTag

namespace Pattern

/-! ## Reading with problems -/

/-- What is captured along the tokens, or why the text or the tokens will not do. -/
def reading : List Token → (rest : Text) → (pending : Option Text) → (used : List Text) →
    Except Problem (List Capture)
  | [], rest, pending, used =>
    match pending with
    | none => .ok []
    | some name =>
      if rest = [] then .error (.nothingLeft name)
      else
        match used.find? (Text.occursIn · rest) with
        | some separator => .error (.separatorReused name rest separator)
        | none => .ok [⟨name, rest⟩]
  | .placeholder name :: tokens, rest, pending, used =>
    if pending.isSome then .error (.adjacentPlaceholders name)
    else if IsKnown name then reading tokens rest (some name) used
    else .error (.unknownPlaceholder name)
  | .literal separator :: tokens, rest, pending, used =>
    match Text.cut? separator rest with
    | none => .error (.separatorNotFound separator)
    | some (captured, rest) =>
      (reading tokens rest none (used ++ [separator])).map
        (pending.toList.map (fun name => ⟨name, captured⟩) ++ ·)

variable {ts : List Token} {rest : Text} {pending : Option Text} {used : List Text}

theorem reading_placeholder {name : Text} (h : IsKnown name) :
    reading (.placeholder name :: ts) rest none used = reading ts rest (some name) used := by
  rw [reading, if_neg (by simp), if_pos h]

theorem reading_literal_of_none {separator : Text} (h : Text.cut? separator rest = none) :
    reading (.literal separator :: ts) rest pending used =
      .error (.separatorNotFound separator) := by
  rw [reading, h]

theorem reading_literal_of_some {separator captured after : Text}
    (h : Text.cut? separator rest = some (captured, after)) :
    reading (.literal separator :: ts) rest pending used =
      (reading ts after none (used ++ [separator])).map
        (pending.toList.map (fun name => ⟨name, captured⟩) ++ ·) := by
  rw [reading, h]

theorem toOption_reading : (reading ts rest pending used).toOption = read? ts rest pending used := by
  induction ts generalizing rest pending used with
  | nil =>
    cases pending with
    | none => rfl
    | some name =>
      rw [reading, read?]
      by_cases hr : rest = []
      · rw [if_pos hr, if_pos (.inl hr)]
        rfl
      · cases hf : used.find? (Text.occursIn · rest) with
        | some separator =>
          have hex : ∃ separator ∈ used, Text.occursIn separator rest = true :=
            ⟨separator, List.mem_of_find?_eq_some hf, by simpa using List.find?_some hf⟩
          rw [if_neg hr, if_pos (.inr hex)]
          rfl
        | none =>
          have hno : ¬ (rest = [] ∨ ∃ separator ∈ used, Text.occursIn separator rest = true) := by
            rintro (hnil | ⟨separator, hmem, hocc⟩)
            · exact hr hnil
            · exact List.find?_eq_none.1 hf separator hmem hocc
          rw [if_neg hr, if_neg hno]
          rfl
  | cons token ts ih =>
    cases token with
    | placeholder name =>
      rw [reading, read?]
      by_cases hp : pending.isSome = true
      · rw [if_pos hp, if_pos (.inl hp)]
        rfl
      · by_cases hk : IsKnown name
        · rw [if_neg hp, if_pos hk, if_neg (by simp [hp, hk]), ih]
        · rw [if_neg hp, if_neg hk, if_pos (.inr hk)]
          rfl
    | literal separator =>
      rw [reading, read?]
      cases Text.cut? separator rest with
      | none => rfl
      | some p =>
        obtain ⟨captured, after⟩ := p
        simp only [← ih]
        cases reading ts after none (used ++ [separator]) <;> rfl

/-- The name of a text field, or the one whose text is dropped. -/
def TakesAny (name : Text) : Prop :=
  name = Field.ignored ∨ ∃ f : Field, (f ≠ .year ∧ f ≠ .trackNumber) ∧ name = f.name

theorem TakesAny.isKnown {name : Text} (h : TakesAny name) : IsKnown name := by
  rcases h with h | ⟨f, -, h⟩
  · exact .inr h
  · exact .inl ⟨f, h⟩

end Pattern

namespace Edit

open Pattern

variable {marker : Option Text} {conv : Conversion} {t : Tag} {ws : List Warning} {ts : List Token}
  {name rest : Text} {pending : Option Text} {used : List Text} {ks : List Capture}

/-- Whatever is captured can be stored in a text field. -/
theorem exists_store_of_bounded (marker : Option Text) (t : Tag) (ws : List Warning) {f : Field}
    (hf : f ≠ .year ∧ f ≠ .trackNumber) (v : Text) :
    ∃ r t' ws', store (.ofMarker marker) (.text f.name) (.text v) ⟨.editable t, ws⟩ =
      .ok r ⟨.editable t', ws'⟩ :=
  ⟨_, _, _, (store_name _ f v).trans (storeText_bounded hf (Text.strip v))⟩

theorem exists_assign (hmarker : conv.marker = .ofMarker marker) (t : Tag) (ws : List Warning)
    (hname : TakesAny name) (captured : Text) :
    ∃ n t' ws', assign conv name captured ⟨.editable t, ws⟩ = .ok n ⟨.editable t', ws'⟩ := by
  rcases hname with rfl | ⟨f, hf, rfl⟩
  · exact ⟨0, t, ws, by rw [assign_ignored, pure_run]⟩
  · obtain ⟨r, t', ws', hstore⟩ := exists_store_of_bounded marker t ws hf (conv.convert captured)
    refine ⟨1, t', ws', ?_⟩
    rw [assign_of_ne captured (Field.ignored_ne_name f).symm, hmarker, bind_of_ok hstore, pure_run]

theorem exists_storeEach
    (h : ∀ k ∈ ks, ∃ f : Field, (f ≠ .year ∧ f ≠ .trackNumber) ∧ k.name = f.name) :
    ∃ t' ws', storeEach (.ofMarker marker) ks ⟨.editable t, ws⟩ = .ok () ⟨.editable t', ws'⟩ := by
  induction ks generalizing t ws with
  | nil => exact ⟨t, ws, rfl⟩
  | cons k ks ih =>
    obtain ⟨⟨f, hf, hname⟩, hks⟩ := List.forall_mem_cons.1 h
    obtain ⟨r, t₁, ws₁, hstore⟩ := exists_store_of_bounded marker t ws hf k.text
    obtain ⟨t', ws', hrest⟩ := @ih t₁ ws₁ hks
    exact ⟨t', ws', by rw [storeEach, hname, bind_of_ok hstore, hrest]⟩

/-- If whatever is captured can be stored, reading and storing has the problem of the reading. -/
theorem exists_readAlong_error (hmarker : conv.marker = .ofMarker marker)
    (hpending : ∀ name ∈ pending, TakesAny name) (hts : ∀ name ∈ placeholders ts, TakesAny name)
    {p : Problem} (h : reading ts rest pending used = .error p) :
    ∃ d', readAlong conv ts rest pending used ⟨.editable t, ws⟩ = .error (.problem p) d' := by
  induction ts generalizing rest pending used t ws with
  | nil =>
    cases pending with
    | none => cases h
    | some name =>
      rw [reading] at h
      rw [readAlong, assignRest_eq]
      by_cases hr : rest = []
      · rw [if_pos hr] at h ⊢
        cases h
        exact ⟨_, rfl⟩
      · rw [if_neg hr] at h ⊢
        cases hf : used.find? (Text.occursIn · rest) with
        | some separator =>
          rw [hf] at h
          cases h
          exact ⟨_, rfl⟩
        | none =>
          rw [hf] at h
          cases h
  | cons token ts ih =>
    cases token with
    | placeholder name =>
      rw [placeholders, List.forall_mem_cons] at hts
      rw [reading] at h
      rw [readAlong_placeholder]
      by_cases hp : pending.isSome = true
      · rw [if_pos hp] at h ⊢
        cases h
        exact ⟨_, rfl⟩
      · rw [if_neg hp, if_pos hts.1.isKnown] at h ⊢
        refine ih ?_ hts.2 h
        rintro other ⟨⟩
        exact hts.1
    | literal separator =>
      rw [placeholders] at hts
      cases hcut : Text.cut? separator rest with
      | none =>
        rw [reading_literal_of_none hcut] at h
        cases h
        exact ⟨_, by rw [readAlong_literal_of_none hcut, throw_run]⟩
      | some part =>
        obtain ⟨captured, after⟩ := part
        rw [reading_literal_of_some hcut] at h
        have hread : reading ts after none (used ++ [separator]) = .error p := by
          cases hr : reading ts after none (used ++ [separator]) <;> rw [hr] at h <;> cases h
          rfl
        cases pending with
        | none =>
          rw [readAlong_literal_of_some hcut]
          exact ih (by simp) hts hread
        | some name =>
          obtain ⟨n, t₁, ws₁, hassign⟩ := exists_assign hmarker t ws (hpending name rfl)
            captured
          obtain ⟨d', herror⟩ := @ih t₁ ws₁ after none (used ++ [separator]) (by simp) hts hread
          exact ⟨d', by rw [readAlong_literal_of_pending hcut, bind_of_ok hassign,
            bind_of_error herror]⟩

variable {q p : Text} {mode weed : Value}

/-- Along a pattern that takes any text, what has a problem in reading is refused for it. -/
theorem extract_of_reading_error (hr : Readable q p)
    (hc : Conversion.wanted? (.ofMarker marker) mode weed = some conv)
    (hts : ∀ name ∈ placeholders (tokens (Text.strip p)), TakesAny name) {problem : Problem}
    (h : reading (tokens (Text.strip p)) (Text.strip q) none [] = .error problem) :
    ∃ ws, (extract (.ofMarker marker) (.text q) (.text p) mode weed).run (.editable t) =
      (⟨.error (.problem problem), ws⟩, .editable t) := by
  have hmarker := (Conversion.wanted?_eq_some.1 hc).1
  obtain ⟨d', herror⟩ := exists_readAlong_error hmarker (by simp) hts h
  exact ⟨d'.warnings, run_eq_error_iff.2 (by
    rw [extract_of_readable hr hc, tokens_normalize, onCopy_of_error herror])⟩

/-- Along a pattern that takes any text, what can be read is stored. -/
theorem extract_of_reading_ok (hr : Readable q p)
    (hc : Conversion.wanted? (.ofMarker marker) mode weed = some conv) (ht : t.keys.Nodup)
    (hts : ∀ name ∈ placeholders (tokens (Text.strip p)), TakesAny name)
    (h : reading (tokens (Text.strip p)) (Text.strip q) none [] = .ok ks) :
    ∃ t' ws, (extract (.ofMarker marker) (.text q) (.text p) mode weed).run (.editable t) =
        (⟨.ok (storedCount (tokens (Text.strip p))), ws⟩, .editable t') ∧
      (storeEach (.ofMarker marker) (conv.stores ks)).run (.editable t) =
        (⟨.ok (), ws⟩, .editable t') := by
  have hread : read? (tokens (Text.strip p)) (Text.strip q) none [] = some ks := by
    rw [← toOption_reading, h]
    rfl
  have hnames := map_name_of_read? hread
  have hbounded : ∀ k ∈ conv.stores ks,
      ∃ f : Field, (f ≠ .year ∧ f ≠ .trackNumber) ∧ k.name = f.name := by
    intro k hk
    have hname : k.name ∈ (conv.stores ks).map (·.name) := List.mem_map_of_mem hk
    rw [Conversion.map_name_stores, hnames, List.mem_filter, decide_eq_true_eq] at hname
    exact (hts _ hname.1).resolve_left hname.2
  obtain ⟨t', ws, hstore⟩ := @exists_storeEach marker t [] _ hbounded
  have hcount : storedCount (tokens (Text.strip p)) = (conv.stores ks).length := by
    rw [length_stores, hnames, storedCount]
  refine ⟨t', ws, run_eq_ok_iff.2 ?_, run_eq_ok_iff.2 hstore⟩
  rw [hcount]
  exact (extract_eq_ok_iff ht).2 ⟨q, p, conv, ks, rfl, rfl, hr, hc, hread, hstore, rfl⟩

end Edit

namespace Pattern

/-! ## One character between neighbours -/

variable {c : Char} {names : List Text} {pieces : List Text} {text : Text} {used : List Text}

/-- Placeholders with a character between neighbours. -/
def separated (c : Char) (names : List Text) : List Token :=
  (names.map Token.placeholder).intersperse (.literal [c])

/-- The text that the tokens write, with texts for the placeholders in order. -/
def spell : List Token → List Text → Text
  | .literal l :: ts, texts => l ++ spell ts texts
  | .placeholder _ :: ts, text :: texts => text ++ spell ts texts
  | _, _ => []

theorem separated_cons_cons (f g : Text) (names : List Text) :
    separated c (f :: g :: names) =
      .placeholder f :: .literal [c] :: separated c (g :: names) := rfl

theorem placeholders_separated : ∀ names : List Text, placeholders (separated c names) = names
  | [] => rfl
  | [_] => rfl
  | f :: g :: names => by
    rw [separated_cons_cons, placeholders, placeholders, placeholders_separated (g :: names)]

theorem spell_separated : ∀ {names pieces : List Text}, pieces.length = names.length →
    spell (separated c names) pieces = Text.join [c] pieces
  | [], [], _ => rfl
  | [f], [v], _ => by simp [separated, spell, Text.join]
  | f :: g :: names, v :: w :: pieces, h => by
    have hrest : (w :: pieces).length = (g :: names).length := Nat.succ.inj h
    rw [separated_cons_cons, spell, spell, spell_separated hrest, Text.join, Text.join,
      List.intercalate_cons_cons, List.append_assoc]

/-- What reading a text along the placeholders gives: the pieces between the characters, if they are
as many and the last one is not empty. -/
def readSeparated (c : Char) (names : List Text) (text : Text) : Except Problem (List Capture) :=
  if text.count c < names.length - 1 then .error (.separatorNotFound [c])
  else if names.length - 1 < text.count c then
    .error (.separatorReused (names.getLastD [])
      (Text.join [c] ((text.splitOn c).drop (names.length - 1))) [c])
  else if text = [] ∨ text.getLast? = some c then .error (.nothingLeft (names.getLastD []))
  else .ok (List.zipWith Capture.mk names (text.splitOn c))

/-- The last placeholder takes what is left, if that is something without the character. -/
theorem reading_last {f : Text} (hf : IsKnown f) (hne : used ≠ []) (hused : ∀ s ∈ used, s = [c]) :
    reading (separated c [f]) text none used = readSeparated c [f] text := by
  have hplaceholder : reading (separated c [f]) text none used = reading [] text (some f) used :=
    reading_placeholder hf
  have hlen : [f].length - 1 = 0 := rfl
  rw [hplaceholder, reading, readSeparated, hlen, if_neg (Nat.not_lt_zero _)]
  by_cases hc : c ∈ text
  · have htext : text ≠ [] := List.ne_nil_of_mem hc
    rw [if_neg htext, if_pos (List.count_pos_iff.2 hc)]
    cases hfind : used.find? (Text.occursIn · text) with
    | none =>
      obtain ⟨s, hs⟩ := List.exists_mem_of_ne_nil used hne
      have hocc := List.find?_eq_none.1 hfind s hs
      rw [hused s hs] at hocc
      exact absurd (Text.occursIn_singleton_iff.2 hc) hocc
    | some s =>
      rw [hused s (List.mem_of_find?_eq_some hfind), List.drop_zero, Text.join,
        List.intercalate_splitOn]
      rfl
  · have hfind : used.find? (Text.occursIn · text) = none := by
      rw [List.find?_eq_none]
      intro s hs
      rw [hused s hs]
      exact fun hocc => hc (Text.occursIn_singleton_iff.1 hocc)
    have hlast : text.getLast? ≠ some c := fun hl => hc (List.mem_of_getLast? hl)
    rw [List.count_eq_zero.2 hc, if_neg (Nat.not_lt_zero _), List.splitOn_eq_singleton hc]
    by_cases htext : text = []
    · rw [if_pos htext, if_pos (.inl htext)]
      rfl
    · rw [if_neg htext, if_neg (by simp [htext, hlast]), hfind]
      rfl

theorem readSeparated_append_cons {f g before after : Text} (h : c ∉ before) :
    readSeparated c (f :: g :: names) (before ++ c :: after) =
      (readSeparated c (g :: names) after).map (⟨f, before⟩ :: ·) := by
  have hlast : (before ++ c :: after = [] ∨ (before ++ c :: after).getLast? = some c) ↔
      (after = [] ∨ after.getLast? = some c) := by
    cases after with
    | nil => simp
    | cons a after => simp [List.getLast?_append]
  have hfew : after.count c + 1 < (f :: g :: names).length - 1 ↔
      after.count c < (g :: names).length - 1 := by
    simp only [List.length_cons]
    omega
  have hmany : (f :: g :: names).length - 1 < after.count c + 1 ↔
      (g :: names).length - 1 < after.count c := by
    simp only [List.length_cons]
    omega
  rw [readSeparated, readSeparated, Text.count_append_cons h,
    List.splitOn_append_cons_self_of_not_mem h]
  simp only [hlast, hfew, hmany]
  split
  · rfl
  · split
    · rfl
    · split <;> rfl

/-- The separators that were used are the same character, at least one before the last
placeholder. -/
theorem reading_separated : ∀ {names used : List Text} {text : Text},
    (∀ name ∈ names, IsKnown name) → (∀ s ∈ used, s = [c]) → names ≠ [] →
    (used = [] → 2 ≤ names.length) →
    reading (separated c names) text none used = readSeparated c names text
  | [f], used, text, hnames, hused, _, hlen => by
    have hne : used ≠ [] := fun he => absurd (hlen he) (by simp)
    exact reading_last (hnames f List.mem_cons_self) hne hused
  | f :: g :: names, used, text, hnames, hused, _, _ => by
    obtain ⟨hf, hrest⟩ := List.forall_mem_cons.1 hnames
    rw [separated_cons_cons, reading_placeholder hf]
    by_cases hc : c ∈ text
    · obtain ⟨before, after, rfl, hbefore⟩ := List.eq_append_cons_of_mem hc
      have hused' : ∀ s ∈ used ++ [[c]], s = [c] := by
        intro s hs
        rcases List.mem_append.1 hs with hs | hs
        · exact hused s hs
        · exact List.mem_singleton.1 hs
      rw [reading_literal_of_some (Text.cut?_append_cons hbefore),
        reading_separated hrest hused' (List.cons_ne_nil g names) (by simp),
        readSeparated_append_cons hbefore]
      rfl
    · rw [reading_literal_of_none (Text.cut?_of_not_mem hc), readSeparated, if_pos]
      rw [List.count_eq_zero.2 hc]
      simp

end Pattern

namespace Edit

open Pattern

/-- Along a pattern of two or more text fields with one character between neighbours, a name is
split at that character. There is a mismatch if the character occurs too rarely, an ambiguity if it
occurs too often and a problem with the pattern if it ends the name; the tag stays as it was.
Otherwise each placeholder captures its piece, and the pieces are the only texts that make up the
name along the pattern. -/
theorem extract_separated {marker : Option Text} {conv : Conversion} {t : Tag} {q p : Text}
    {mode weed : Value} {c : Char} {names : List Text} (hq : Text.strip q ≠ [])
    (hp : tokens (Text.strip p) = separated c names) (hlen : 2 ≤ names.length)
    (hnames : ∀ name ∈ names, TakesAny name)
    (hc : Conversion.wanted? (.ofMarker marker) mode weed = some conv) (ht : t.keys.Nodup) :
    let name := Text.strip q
    let outcome :=
      (extract (.ofMarker marker) (.text q) (.text p) mode weed).run (.editable t)
    (name.count c < names.length - 1 →
      ∃ ws, outcome = (⟨.error (.problem (.separatorNotFound [c])), ws⟩, .editable t)) ∧
    (names.length - 1 < name.count c →
      ∃ ws, outcome = (⟨.error (.problem (.separatorReused (names.getLastD [])
        (Text.join [c] ((name.splitOn c).drop (names.length - 1))) [c])), ws⟩, .editable t)) ∧
    (name.count c = names.length - 1 → name.getLast? = some c →
      ∃ ws, outcome = (⟨.error (.problem (.nothingLeft (names.getLastD []))), ws⟩, .editable t)) ∧
    (name.count c = names.length - 1 → name.getLast? ≠ some c →
      (∃ t' ws,
        outcome = (⟨.ok (names.countP (· ≠ Field.ignored)), ws⟩, .editable t') ∧
        (storeEach (.ofMarker marker)
          (conv.stores (List.zipWith Capture.mk names (name.splitOn c)))).run (.editable t) =
            (⟨.ok (), ws⟩, .editable t')) ∧
      ∀ pieces, pieces.length = names.length ∧ spell (tokens (Text.strip p)) pieces = name ↔
        pieces = name.splitOn c) := by
  intro name outcome
  have hne : names ≠ [] := by
    rintro rfl
    cases hlen
  have hplaceholders : placeholders (tokens (Text.strip p)) = names := by
    rw [hp, placeholders_separated]
  have hts : ∀ name ∈ placeholders (tokens (Text.strip p)), TakesAny name := hplaceholders ▸ hnames
  have hr : Readable q p := ⟨hq, hasPlaceholder_iff.2 (hplaceholders.symm ▸ hne)⟩
  have hread : reading (tokens (Text.strip p)) name none [] = readSeparated c names name := by
    rw [hp]
    exact reading_separated (fun name hname => (hnames name hname).isKnown) (by simp) hne
      fun _ => hlen
  refine ⟨fun hfew => ?_, fun hmany => ?_, fun hcount hlast => ?_, fun hcount hlast => ⟨?_, ?_⟩⟩
  · refine extract_of_reading_error hr hc hts (hread.trans ?_)
    rw [readSeparated, if_pos hfew]
  · refine extract_of_reading_error hr hc hts (hread.trans ?_)
    rw [readSeparated, if_neg (Nat.lt_asymm hmany), if_pos hmany]
  · refine extract_of_reading_error hr hc hts (hread.trans ?_)
    rw [readSeparated, hcount, if_neg (Nat.lt_irrefl _), if_neg (Nat.lt_irrefl _),
      if_pos (.inr hlast)]
  · have hok := extract_of_reading_ok (t := t) hr hc ht hts (hread.trans (by
      rw [readSeparated, hcount, if_neg (Nat.lt_irrefl _), if_neg (Nat.lt_irrefl _),
        if_neg (by simp [name, hq, hlast])]))
    rw [storedCount, hplaceholders] at hok
    exact hok
  · intro pieces
    rw [← Text.join_eq_iff, hp, hcount, Nat.sub_add_cancel (by omega)]
    refine and_congr_right fun hpieces => ?_
    rw [spell_separated hpieces]

/-- Of three pieces the second is dropped. -/
theorem extract_separated_live :
    (extract .null (.text "Iron Maiden-live-Run".toList)
      (.text "((ARTIST))-((ignore))-((TITLE))".toList) .null .null).run (.editable .empty) =
      (⟨.ok 2, []⟩, .editable (.ofTexts fun
        | .artist => "Iron Maiden".toList
        | .title => "Run".toList
        | _ => [])) := by
  have hp : tokens (Text.strip "((ARTIST))-((ignore))-((TITLE))".toList) =
      separated '-' [Field.artist.name, Field.ignored, Field.title.name] := by
    decide +kernel
  have hnames : ∀ name ∈ [Field.artist.name, Field.ignored, Field.title.name], TakesAny name := by
    intro name hname
    simp only [List.mem_cons, List.not_mem_nil, or_false] at hname
    rcases hname with rfl | rfl | rfl
    · exact .inr ⟨.artist, by decide, rfl⟩
    · exact .inl rfl
    · exact .inr ⟨.title, by decide, rfl⟩
  have hc : Conversion.wanted? (.ofMarker none) .null .null = some ⟨.null, none, none⟩ := rfl
  obtain ⟨-, -, -, hsplit⟩ := @extract_separated none _ .empty "Iron Maiden-live-Run".toList _ _ _ _
    _ (by decide) hp (by decide) hnames hc Tag.nodup_keys_empty
  obtain ⟨⟨t', ws, hrun, hstore⟩, -⟩ := hsplit (by decide) (by decide)
  have hpieces : (Text.strip "Iron Maiden-live-Run".toList).splitOn '-' =
      ["Iron Maiden".toList, "live".toList, "Run".toList] := by
    decide
  have hstored : (storeEach (.ofMarker none) [⟨Field.artist.name, "Iron Maiden".toList⟩,
      ⟨Field.title.name, "Run".toList⟩]).run (.editable .empty) =
      (⟨.ok (), []⟩, .editable (.ofTexts fun
        | .artist => "Iron Maiden".toList
        | .title => "Run".toList
        | _ => [])) := rfl
  have hstores : Conversion.stores ⟨.null, none, none⟩
      (List.zipWith Capture.mk [Field.artist.name, Field.ignored, Field.title.name]
        ["Iron Maiden".toList, "live".toList, "Run".toList]) =
      [⟨Field.artist.name, "Iron Maiden".toList⟩, ⟨Field.title.name, "Run".toList⟩] := by
    decide
  have hcount : [Field.artist.name, Field.ignored, Field.title.name].countP
      (· ≠ Field.ignored) = 2 := by
    decide
  rw [hpieces, hstores, hstored, Prod.mk.injEq, Outcome.mk.injEq] at hstore
  obtain ⟨⟨-, rfl⟩, hsubject⟩ := hstore
  rw [hcount, ← hsubject] at hrun
  exact hrun

end Edit

end NameTag
