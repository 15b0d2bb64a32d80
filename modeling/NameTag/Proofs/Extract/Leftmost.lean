import NameTag.Proofs.Extract.Outcome

/-!
# The leftmost decomposition

A pattern cuts a name at its literals: each literal is marked at the least position, from the end of
the literal before it, at which it occurs, and a placeholder captures what stands between the marks
around it. `read?_eq_some_iff` says that the reading of a name finds exactly these captures, and
`extract_leftmost` what an extraction gives.
-/

namespace NameTag

namespace Text

/-- The characters from position `c` up to position `s`. -/
def between (c s : Nat) (t : Text) : Text :=
  (t.drop c).take (s - c)

/-- Cutting what follows position `c` is marking the first occurrence from there. -/
theorem cut?_drop_eq_some_iff {sep t before after : Text} {c : Nat} (hc : c ≤ t.length) :
    cut? sep (t.drop c) = some (before, after) ↔
      ∃ s, FirstFrom sep t c s ∧ before = between c s t ∧ after = t.drop (s + sep.length) := by
  rw [cut?_eq_some_iff]
  constructor
  · rintro ⟨he, hf⟩
    refine ⟨c + before.length, (firstFrom_drop hc).1 hf, ?_, ?_⟩
    · rw [between, he, Nat.add_sub_cancel_left, List.append_assoc, List.take_left]
    · rw [← List.append_cancel_left_eq (before ++ sep), ← he, Nat.add_assoc, ← List.drop_drop,
        ← List.length_append, he, List.drop_left]
  · rintro ⟨s, hf, rfl, rfl⟩
    obtain ⟨d, rfl⟩ := Nat.exists_eq_add_of_le hf.1.1
    have hd := (firstFrom_drop hc).2 hf
    have hlen : (between c (c + d) t).length = d := by
      have := hf.1.2.1
      rw [between, List.length_take, List.length_drop]
      omega
    refine ⟨?_, hlen.symm ▸ hd⟩
    obtain ⟨r, hr⟩ := hd.1.2.2
    have hafter : t.drop (c + d + sep.length) = r := by
      rw [← List.drop_drop, ← List.drop_drop, ← hr, List.drop_left]
    rw [hafter, between, Nat.add_sub_cancel_left, List.append_assoc, hr, List.take_append_drop]

end Text

namespace Pattern

/-- The positions of the literals `ls`, each the least from the end of the one before; the search
starts at position `c`. -/
def Marks (name : Text) : (c : Nat) → List Text → List Nat → Prop
  | _, [], [] => True
  | c, l :: ls, s :: ss => Text.FirstFrom l name c s ∧ Marks name (s + l.length) ls ss
  | _, _, _ => False

instance Marks.decidable (name : Text) : ∀ c ls ss, Decidable (Marks name c ls ss)
  | _, [], [] => .isTrue trivial
  | _, [], _ :: _ => .isFalse id
  | _, _ :: _, [] => .isFalse id
  | _, l :: ls, s :: ss =>
    have := Marks.decidable name (s + l.length) ls ss
    inferInstanceAs (Decidable (_ ∧ _))

/-- The end of the last literal. -/
def endOf : (c : Nat) → List Text → List Nat → Nat
  | _, l :: ls, s :: ss => endOf (s + l.length) ls ss
  | c, _, _ => c

/-- What the placeholders capture: the text up to the mark of the literal behind them, or all that
is left. -/
def captures (name : Text) : (c : Nat) → List Token → List Nat → List Capture
  | _, .literal l :: ts, s :: ss => captures name (s + l.length) ts ss
  | c, .placeholder f :: .literal l :: ts, s :: ss =>
    ⟨f, Text.between c s name⟩ :: captures name (s + l.length) ts ss
  | c, [.placeholder f], _ => [⟨f, name.drop c⟩]
  | _, _, _ => []

/-- What is left for a placeholder at the end is not empty and holds no literal, neither of the
tokens nor of those used before them. -/
def LastFits (name : Text) (c : Nat) (used : List Text) (ts : List Token) (ss : List Nat) : Prop :=
  (∃ f, ts.getLast? = some (.placeholder f)) →
    name.drop (endOf c (literals ts) ss) ≠ [] ∧
      ∀ l ∈ used ++ literals ts, ¬ l <:+: name.drop (endOf c (literals ts) ss)

variable {name l f g : Text} {c s : Nat} {used ls : List Text} {ts : List Token} {ss : List Nat}
  {ks : List Capture}

theorem marks_nil : Marks name c [] ss ↔ ss = [] := by
  cases ss <;> simp [Marks]

theorem marks_cons :
    Marks name c (l :: ls) ss ↔ ∃ s ss', ss = s :: ss' ∧ Text.FirstFrom l name c s ∧
      Marks name (s + l.length) ls ss' := by
  cases ss <;> simp [Marks]

/-- A name is marked in one way only. -/
theorem Marks.unique {ss' : List Nat} (h : Marks name c ls ss) (h' : Marks name c ls ss') :
    ss = ss' := by
  induction ls generalizing c ss ss' with
  | nil => rw [marks_nil.1 h, marks_nil.1 h']
  | cons l ls ih =>
    obtain ⟨s, ss, rfl, hs, hm⟩ := marks_cons.1 h
    obtain ⟨s', ss', rfl, hs', hm'⟩ := marks_cons.1 h'
    obtain rfl := hs.unique hs'
    rw [ih hm hm']

theorem lastFits_literal_cons :
    LastFits name c used (.literal l :: ts) (s :: ss) ↔
      LastFits name (s + l.length) (used ++ [l]) ts ss := by
  simp only [LastFits, getLast?_literal_cons, literals, endOf, List.append_assoc,
    List.singleton_append]

theorem lastFits_placeholder_literal :
    LastFits name c used (.placeholder f :: .literal l :: ts) (s :: ss) ↔
      LastFits name (s + l.length) (used ++ [l]) ts ss := by
  rw [← lastFits_literal_cons (c := c), LastFits, LastFits, List.getLast?_cons_cons]
  rfl

/-- One literal is read: it is marked, what it ends is captured, and reading goes on behind it. -/
theorem read?_literal (hc : c ≤ name.length) {pending : Option Text} :
    read? (.literal l :: ts) (name.drop c) pending used = some ks ↔
      ∃ s, Text.FirstFrom l name c s ∧ ∃ later,
        read? ts (name.drop (s + l.length)) none (used ++ [l]) = some later ∧
        ks = pending.toList.map (fun f => ⟨f, Text.between c s name⟩) ++ later := by
  rw [read?]
  cases hcut : Text.cut? l (name.drop c) with
  | none =>
    have hno : ∀ s, ¬ Text.FirstFrom l name c s := by
      intro s hs
      have hsome := (Text.cut?_drop_eq_some_iff hc).2 ⟨s, hs, rfl, rfl⟩
      rw [hcut] at hsome
      cases hsome
    simp [hno]
  | some p =>
    obtain ⟨before, after⟩ := p
    obtain ⟨s, hs, rfl, rfl⟩ := (Text.cut?_drop_eq_some_iff hc).1 hcut
    rw [Option.map_eq_some_iff]
    constructor
    · rintro ⟨later, hl, rfl⟩
      exact ⟨s, hs, later, hl, rfl⟩
    · rintro ⟨s', hs', later, hl, rfl⟩
      obtain rfl := hs.unique hs'
      exact ⟨later, hl, rfl⟩

/-- The end of a literal that occurs lies within the name. -/
theorem end_le_length (h : Text.FirstFrom l name c s) : s + l.length ≤ name.length := by
  have hle := h.1.2.2.length_le
  have hs := h.1.2.1
  rw [List.length_drop] at hle
  omega

/-- Reading from position `c` on finds the leftmost decomposition from there, if it fits. -/
theorem read?_eq_some_iff : ∀ (ts : List Token) {c : Nat} {used : List Text} {ks : List Capture},
    c ≤ name.length →
    (read? ts (name.drop c) none used = some ks ↔
      WellFormed ts ∧ ∃ ss, Marks name c (literals ts) ss ∧ LastFits name c used ts ss ∧
        ks = captures name c ts ss)
  | [], c, used, ks, _ => by
    rw [read?, literals]
    constructor
    · intro h
      cases h
      exact ⟨wellFormed_nil, [], marks_nil.2 rfl, by simp [LastFits], rfl⟩
    · rintro ⟨-, ss, hm, -, rfl⟩
      rw [marks_nil.1 hm]
      rfl
  | .literal l :: ts, c, used, ks, hc => by
    rw [read?_literal hc, wellFormed_literal_cons, literals]
    constructor
    · rintro ⟨s, hs, later, hl, rfl⟩
      obtain ⟨hw, ss, hm, hf, rfl⟩ := (read?_eq_some_iff ts (end_le_length hs)).1 hl
      exact ⟨hw, s :: ss, ⟨hs, hm⟩, lastFits_literal_cons.2 hf, rfl⟩
    · rintro ⟨hw, ss, hm, hf, rfl⟩
      obtain ⟨s, ss, rfl, hs, hm⟩ := marks_cons.1 hm
      exact ⟨s, hs, _, (read?_eq_some_iff ts (end_le_length hs)).2
        ⟨hw, ss, hm, lastFits_literal_cons.1 hf, rfl⟩, rfl⟩
  | [.placeholder f], c, used, ks, _ => by
    have hfit : LastFits name c used [.placeholder f] [] ↔
        ¬ (name.drop c = [] ∨ ∃ l ∈ used, Text.occursIn l (name.drop c) = true) := by
      simp [LastFits, literals, endOf, Text.occursIn_iff, not_or]
    rw [wellFormed_placeholder, literals, literals]
    simp only [read?, Option.isSome_none, Bool.false_eq_true, false_or]
    by_cases hk : IsKnown f
    · rw [if_neg (not_not.2 hk)]
      by_cases hr : name.drop c = [] ∨ ∃ l ∈ used, Text.occursIn l (name.drop c) = true
      · rw [if_pos hr]
        constructor
        · intro h
          cases h
        · rintro ⟨-, ss, hm, hf, -⟩
          rw [marks_nil.1 hm] at hf
          exact absurd hr (hfit.1 hf)
      · rw [if_neg hr]
        constructor
        · intro h
          cases h
          exact ⟨hk, [], marks_nil.2 rfl, hfit.2 hr, rfl⟩
        · rintro ⟨-, ss, hm, -, rfl⟩
          rw [marks_nil.1 hm]
          rfl
    · rw [if_pos hk]
      simp [hk]
  | .placeholder f :: .placeholder g :: ts, c, used, ks, _ => by
    constructor
    · intro h
      by_cases hk : IsKnown f
      · simp [read?, hk] at h
      · simp [read?, hk] at h
    · rintro ⟨hw, -⟩
      exact absurd hw not_wellFormed_placeholders
  | .placeholder f :: .literal l :: ts, c, used, ks, hc => by
    rw [wellFormed_placeholder_literal, literals, literals, read?]
    by_cases hk : IsKnown f
    · rw [if_neg (by simp [hk]), read?_literal hc]
      constructor
      · rintro ⟨s, hs, later, hl, rfl⟩
        obtain ⟨hw, ss, hm, hf, rfl⟩ := (read?_eq_some_iff ts (end_le_length hs)).1 hl
        exact ⟨⟨hk, hw⟩, s :: ss, ⟨hs, hm⟩, lastFits_placeholder_literal.2 hf, rfl⟩
      · rintro ⟨⟨-, hw⟩, ss, hm, hf, rfl⟩
        obtain ⟨s, ss, rfl, hs, hm⟩ := marks_cons.1 hm
        exact ⟨s, hs, _, (read?_eq_some_iff ts (end_le_length hs)).2
          ⟨hw, ss, hm, lastFits_placeholder_literal.1 hf, rfl⟩, rfl⟩
    · rw [if_pos (by simp [hk])]
      simp [hk]

/-! ## What is stored -/

/-- Every placeholder captures a text. -/
theorem map_name_captures : ∀ (ts : List Token) {c : Nat} {ss : List Nat}, WellFormed ts →
    Marks name c (literals ts) ss → (captures name c ts ss).map (·.name) = placeholders ts
  | [], _, _, _, _ => rfl
  | .literal l :: ts, c, ss, hw, hm => by
    obtain ⟨s, ss, rfl, -, hm⟩ := marks_cons.1 hm
    exact map_name_captures ts (wellFormed_literal_cons.1 hw) hm
  | [.placeholder f], _, _, _, _ => rfl
  | .placeholder f :: .placeholder g :: ts, _, _, hw, _ => absurd hw not_wellFormed_placeholders
  | .placeholder f :: .literal l :: ts, c, ss, hw, hm => by
    obtain ⟨s, ss, rfl, -, hm⟩ := marks_cons.1 hm
    rw [captures, List.map_cons, map_name_captures ts (wellFormed_placeholder_literal.1 hw).2 hm]
    rfl

theorem map_name_of_read? {ts : List Token} {used : List Text} {ks : List Capture}
    (h : read? ts name none used = some ks) : ks.map (·.name) = placeholders ts := by
  obtain ⟨hw, ss, hm, -, rfl⟩ := (read?_eq_some_iff ts (Nat.zero_le name.length)).1 h
  exact map_name_captures ts hw hm

/-- The number of placeholders whose text is stored. -/
def storedCount (ts : List Token) : Nat :=
  (placeholders ts).countP (· ≠ Field.ignored)

theorem length_stores (c : Conversion) (ks : List Capture) :
    (c.stores ks).length = (ks.map (·.name)).countP (· ≠ Field.ignored) := by
  rw [Conversion.stores, List.length_map, List.countP_map, List.countP_eq_length_filter]
  rfl

end Pattern

namespace Edit

/-- An extraction that succeeds has stored a text for every placeholder of a field. -/
theorem extract_count {marker source mode weed : Value} {p : Text}
    {d d' : Draft} {n : Nat} (h : extract marker source (.text p) mode weed d = .ok n d') :
    n = Pattern.storedCount (Pattern.tokens (Pattern.normalize (Text.strip p))) := by
  rcases extract_cases marker source (.text p) mode weed d with
    ⟨e, he⟩ | ⟨t, w, m, q, name, -, hq, he⟩
  · rw [he] at h
    cases h
  · obtain rfl := eq_of_sourcePattern hq
    rw [he] at h
    obtain ⟨d₁, hread⟩ := exists_of_onCopy h
    obtain ⟨captures, hcaptures, -, rfl⟩ := readAlong_eq_ok_iff.1 hread
    rw [Pattern.length_stores, Pattern.map_name_of_read? hcaptures, Pattern.storedCount]

/-- An extraction succeeds exactly if the tokens are well formed, the literals can be marked, what
is left fits the end, and the captured texts can be stored once they are converted. It leaves the
tag that the storing leaves, with its warnings; one that fails leaves the tag as it was. -/
theorem extract_leftmost (marker : Value) {source pattern : Text} (mode : Option CaseMode)
    {weed : Option Text} {w : Option Weed} {t : Tag} (hs : Text.strip source ≠ [])
    (hp : Pattern.hasPlaceholder (Pattern.normalize (Text.strip pattern)) = true)
    (hw : weed.mapM (fun e => Weed.compile (.text e)) = .ok w) (ht : t.keys.Nodup) :
    let name := Text.strip source
    let ts := Pattern.tokens (Pattern.normalize (Text.strip pattern))
    let outcome := (extract marker (.text source) (.text pattern)
      (.ofOption CaseMode.toValue mode) (.ofOption .text weed)).run (.editable t)
    (∀ n ws s, outcome = (⟨.ok n, ws⟩, s) ↔
      Pattern.WellFormed ts ∧ ∃ marks, Pattern.Marks name 0 (Pattern.literals ts) marks ∧
        Pattern.LastFits name 0 [] ts marks ∧
        (storeEach marker (Conversion.stores ⟨marker, w, mode⟩
          (Pattern.captures name 0 ts marks))).run (.editable t) = (⟨.ok (), ws⟩, s) ∧
        n = Pattern.storedCount ts) ∧
    ∀ e ws s, outcome = (⟨.error e, ws⟩, s) → s = .editable t := by
  intro name ts outcome
  refine ⟨fun n ws s => ?_, fun e ws s h => extract_error_subject (run_eq_error_iff.1 h)⟩
  have hread : ∀ ks, Pattern.read? ts name none [] = some ks ↔ Pattern.WellFormed ts ∧
      ∃ marks, Pattern.Marks name 0 (Pattern.literals ts) marks ∧
        Pattern.LastFits name 0 [] ts marks ∧ ks = Pattern.captures name 0 ts marks :=
    fun ks => Pattern.read?_eq_some_iff ts (Nat.zero_le _)
  rw [run_eq_ok_iff, extract_run mode hs hp hw, onCopy_readAlong_eq_ok_iff ht]
  constructor
  · rintro ⟨ks, hr, hst, rfl⟩
    obtain ⟨hwf, marks, hm, hf, rfl⟩ := (hread ks).1 hr
    exact ⟨hwf, marks, hm, hf, run_eq_ok_iff.2 hst,
      by rw [Pattern.length_stores, Pattern.map_name_captures ts hwf hm]; rfl⟩
  · rintro ⟨hwf, marks, hm, hf, hst, rfl⟩
    exact ⟨_, (hread _).2 ⟨hwf, marks, hm, hf, rfl⟩, run_eq_ok_iff.1 hst,
      by rw [Pattern.length_stores, Pattern.map_name_captures ts hwf hm]; rfl⟩

/-- The separator of number and title is marked at position 2. -/
theorem extract_leftmost_song :
    (extract .null (.text "01 - song".toList) (.text "((TRACKNUM)) - ((title))".toList)
      (.ofOption CaseMode.toValue (some .words)) (.ofOption .text none)).run (.editable .empty) =
    (⟨.ok 2, []⟩, .editable (.ofTexts fun
      | .title => "Song".toList
      | .trackNumber => "01".toList
      | _ => [])) := by
  have hp : Pattern.hasPlaceholder
      (Pattern.normalize (Text.strip "((TRACKNUM)) - ((title))".toList)) = true := by
    decide +kernel
  have hts : Pattern.tokens (Pattern.normalize (Text.strip "((TRACKNUM)) - ((title))".toList)) =
      [.placeholder "TRACKNUM".toList, .literal " - ".toList, .placeholder "TITLE".toList] := by
    decide +kernel
  have hcut : Text.cut? " - ".toList "01 - song".toList = some ("01".toList, "song".toList) := by
    decide
  have hmark : Text.FirstFrom " - ".toList "01 - song".toList 0 2 :=
    (Text.cut?_eq_some_iff.1 hcut).2
  have hleft := (@extract_leftmost .null "01 - song".toList "((TRACKNUM)) - ((title))".toList
    (some .words) none none .empty (by decide) hp rfl Tag.nodup_keys_empty).1
  rw [hts] at hleft
  refine (hleft 2 [] _).2 ⟨⟨by decide, by decide⟩, [2], ⟨hmark, trivial⟩, fun _ => ?_, rfl, rfl⟩
  decide

end Edit

end NameTag
