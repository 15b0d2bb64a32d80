import NameTag.Proofs.StoreRun

/-!
# Warnings of loss

A store warns exactly if something is lost: a text that is longer than its field, or the end of a
comment that makes room for a track number (`Tag.putWarnings_ne_nil_iff`). So a parse without a
warning has stored every text as it was captured, weeded and converted, and nothing else
(`Session.warnings_of_loss`).
-/

namespace NameTag

namespace Tag

variable {marker : Option Text} {t : Tag} {f : Field} {s key : Text} {l : List (Field × Text)}

/-- The most characters that a text field takes: a comment beside a track number takes two less,
and the genre takes any number. -/
def capacity (t : Tag) : Field → Option Nat
  | .title | .artist | .album => some 30
  | .comment => if t.text .trackNumber ≠ [] then some 28 else some 30
  | .year | .trackNumber | .genre => none

theorem Textual.limit_eq_capacity (ht : t.Textual) (hf : f ≠ .year ∧ f ≠ .trackNumber) :
    t.limit f = t.capacity f := by
  rw [limit_eq ht]
  cases f with
  | comment =>
    by_cases hn : t.text .trackNumber ≠ []
    · rw [if_pos ⟨rfl, hn⟩, capacity, if_pos hn]
      rfl
    · rw [if_neg fun h => hn h.2, capacity, if_neg hn]
      rfl
  | year => exact absurd rfl hf.1
  | trackNumber => exact absurd rfl hf.2
  | _ => rfl

theorem length_putWarnings_le : (t.putWarnings marker f s).length ≤ 1 := by
  rw [putWarnings]
  split <;> split <;> simp

/-- A text is cut exactly if it is longer than its field. -/
theorem Textual.kept_ne_self_iff (ht : t.Textual) (marker : Option Text) (hs : Text.strip s = s) :
    t.kept marker f s ≠ s ↔ ∃ n ∈ t.capacity f, n < s.length := by
  by_cases hf : f ≠ .year ∧ f ≠ .trackNumber
  · rw [kept_of_bounded hf, ht.limit_eq_capacity hf, ne_eq, Text.trim_eq_self_iff hs]
    simp only [not_forall, not_le, exists_prop]
  · rcases Field.year_or_trackNumber hf with rfl | rfl <;> simp [kept, capacity]

/-- A track number changes the comment exactly if there is one that is cut. -/
theorem Textual.shortenedComment_ne_iff (ht : t.Textual) (marker : Option Text) (s : Text) :
    t.shortenedComment marker ≠ t.text .comment ↔
      t.text .comment ≠ [] ∧ (t.put marker .trackNumber s).value .comment ≠ t.value .comment := by
  by_cases hc : t.text .comment = []
  · simp [hc, shortenedComment_of_empty hc]
  · have hold : t.value .comment = .text (t.text .comment) :=
      (ht.value_cases .comment).resolve_right fun h => hc h.2
    have hnew : (t.put marker .trackNumber s).value .comment =
        .text (t.shortenedComment marker) := by
      rw [Tag.put, if_pos rfl, value_setText, if_neg (by decide), Tag.shortened, if_neg hc,
        value_setText, if_pos rfl]
    rw [hold, hnew, and_iff_right hc, ne_eq, ne_eq, Value.text.injEq]

/-- A store gives a warning exactly if it loses something. -/
theorem Textual.putWarnings_ne_nil_iff (ht : t.Textual) (marker : Option Text)
    (hs : Text.strip s = s) :
    t.putWarnings marker f s ≠ [] ↔
      (∃ n ∈ t.capacity f, n < s.length) ∨
        f = .trackNumber ∧ t.text .comment ≠ [] ∧
          (t.put marker f s).value .comment ≠ t.value .comment := by
  rw [putWarnings]
  by_cases hf : f = .trackNumber
  · subst hf
    have hnone : ¬ ∃ n ∈ t.capacity .trackNumber, n < s.length := by simp [capacity]
    rw [if_pos rfl, or_iff_right hnone, ← ht.shortenedComment_ne_iff marker s, and_iff_right rfl]
    exact ite_ne_right_iff.trans (and_iff_left (List.cons_ne_nil _ _))
  · rw [if_neg hf, or_iff_left fun h => hf h.1, ← ht.kept_ne_self_iff marker hs]
    exact ite_ne_right_iff.trans (and_iff_left (List.cons_ne_nil _ _))

/-! ## Runs without a warning -/

/-- Stores into different fields without a warning set them to the stripped texts and change nothing
else. -/
theorem Textual.get?_putEach_of_silent (ht : t.Textual) (h : t.putEachWarnings marker l = [])
    (hone : (l.map (·.1)).Nodup) :
    (∀ a ∈ l, (t.putEach marker l).get? a.1.name = some (.text (Text.strip a.2))) ∧
      ∀ key, (∀ f ∈ l.map (·.1), key ≠ Field.name f) →
        (t.putEach marker l).get? key = t.get? key := by
  induction l generalizing t with
  | nil => exact ⟨by simp, fun _ _ => rfl⟩
  | cons a l ih =>
    rw [putEachWarnings, List.append_eq_nil_iff] at h
    rw [List.map_cons, List.nodup_cons] at hone
    obtain ⟨hin, hout⟩ := ih (ht.put a.1 (Text.strip a.2)) h.2 hone.2
    refine ⟨List.forall_mem_cons.2 ⟨?_, hin⟩, fun key hkey => ?_⟩
    · -- the later stores are of other fields
      have hlater : ∀ f ∈ l.map (·.1), a.1.name ≠ Field.name f := by
        intro f hf he
        exact hone.1 (by rwa [Field.name_injective he])
      rw [Tag.putEach, hout _ hlater, ht.get?_put_of_silent h.1, if_pos rfl]
    · rw [List.map_cons, List.forall_mem_cons] at hkey
      rw [Tag.putEach, hout key hkey.2, ht.get?_put_of_silent h.1, if_neg hkey.1]

end Tag

namespace Session

open Pattern

/-- Warnings report loss exactly. A store gives at most one warning, and gives one exactly if it
succeeds and either the stripped text is longer than its field, or a track number is stored and a
comment was changed for it. So a parse that names no field twice and succeeds without a warning has
left in every field of the pattern the text captured for it, weeded, converted and stripped, and all
other names as they were. -/
theorem warnings_of_loss {s : Session} {marker : Option Text} {t : Tag}
    (hmarker : s.settings.marker = .ofMarker marker) (ht : t.Textual) :
    (∀ (field : Value) (value : Text), ∃ report t',
      (setField (.editable t) field (.text value) s).1 = (.ok report, .editable t') ∧
      report.warnings.length ≤ 1 ∧
      (report.warnings ≠ [] ↔ report.passed = true ∧ ∃ f : Field, field = .text f.name ∧
        ((∃ n ∈ t.capacity f, n < (Text.strip value).length) ∨
          f = .trackNumber ∧ t.text .comment ≠ [] ∧ t'.value .comment ≠ t.value .comment))) ∧
    (t.keys.Nodup → ∀ (source : Value) (p : Text) (mode weed : Value) (n : Nat) (subject : Subject),
      (∀ f : Field, (placeholders (tokens (Text.strip p))).count f.name ≤ 1) →
      (parse (.editable t) source (.text p) mode weed s).1 = (.ok ⟨.ok n, []⟩, subject) →
      ∃ q c marks t', source = .text q ∧ Conversion.wanted? (.ofMarker marker) mode weed = some c ∧
        Marks (Text.strip q) 0 (literals (tokens (Text.strip p))) marks ∧
        subject = .editable t' ∧
        (∀ f ∈ fields (Text.strip p), ∃ v,
          ⟨f.name, v⟩ ∈ captures (Text.strip q) 0 (tokens (Text.strip p)) marks ∧
          t'.get? f.name = some (.text (Text.strip (c.convert v)))) ∧
        ∀ key, (∀ f ∈ fields (Text.strip p), key ≠ f.name) → t'.get? key = t.get? key) := by
  constructor
  · intro field value
    rw [setField, perform_run, hmarker, Edit.run]
    rcases Edit.store_textual marker ht field (.text value) [] with
      ⟨f, hf, -, -, hstore⟩ | ⟨problem, hstore⟩
    · rw [hstore]
      refine ⟨_, _, rfl, Tag.length_putWarnings_le, ?_⟩
      have hiff := ht.putWarnings_ne_nil_iff (f := f) marker (Text.strip_strip value)
      constructor
      · intro hwarn
        exact ⟨rfl, f, hf, hiff.1 hwarn⟩
      · rintro ⟨-, g, hg, hloss⟩
        obtain rfl : f = g := Field.name_injective (Value.text.inj (hf.symm.trans hg))
        exact hiff.2 hloss
    · rw [hstore]
      exact ⟨_, _, rfl, Nat.zero_le 1, by simp [Report.passed, Except.isOk, Except.toBool]⟩
  · intro hkeys source p mode weed n subject hone h
    obtain ⟨l, hl, rfl, hwarn, -⟩ := (parse_eq_ok_iff hmarker ht hkeys).1 h
    obtain ⟨hin, hout⟩ := ht.get?_putEach_of_silent hwarn.symm (hl.nodup hone)
    have hmem : ∀ f : Field, f ∈ l.map (·.1) ↔ f ∈ fields (Text.strip p) := fun f => hl.mem_iff
    obtain ⟨q, p', c, ks, rfl, hp, -, hc, hread, hstores, -⟩ := hl
    cases hp
    obtain ⟨-, marks, hmarks, -, rfl⟩ := (read?_eq_some_iff _ (Nat.zero_le _)).1 hread
    refine ⟨q, c, marks, _, rfl, hc, hmarks, rfl, fun f hf => ?_, fun key hkey => ?_⟩
    · obtain ⟨⟨g, v⟩, ha, rfl⟩ := List.mem_map.1 ((hmem f).2 hf)
      have hcapture : ⟨g.name, v⟩ ∈ c.stores
          (captures (Text.strip q) 0 (tokens (Text.strip p)) marks) :=
        hstores ▸ List.mem_map_of_mem ha
      obtain ⟨w, hw, rfl⟩ := Conversion.exists_of_mem_stores hcapture
      exact ⟨w, hw, hin _ ha⟩
    · exact hout key fun f hf => hkey f ((hmem f).1 hf)

/-- A comment that is cut for a track number, and a title that is stored as it is. -/
theorem warnings_of_loss_comment_title :
    (∃ report t', (setField (.editable (.ofTexts fun _ => List.replicate 29 'c'))
        (.text Field.trackNumber.name) (.text "7".toList) {}).1 = (.ok report, .editable t') ∧
      report.warnings ≠ []) ∧
    ∃ t', (parse (.editable .empty) (.text "by - Song".toList)
        (.text "by - ((TITLE))".toList) .null .null {}).1 = (.ok ⟨.ok 1, []⟩, .editable t') ∧
      t'.get? Field.title.name = some (.text "Song".toList) := by
  have hmarker : ({} : Session).settings.marker = .ofMarker none := rfl
  constructor
  · obtain ⟨report, t', hset, -, hiff⟩ := (warnings_of_loss hmarker (Tag.textual_ofTexts _)).1
      (.text Field.trackNumber.name) "7".toList
    refine ⟨report, t', hset, hiff.2 ?_⟩
    cases hset
    refine ⟨rfl, .trackNumber, rfl, .inr ⟨rfl, by decide, fun he => ?_⟩⟩
    have hcut : List.replicate 28 'c' = List.replicate 29 'c' := Value.text.inj he
    exact absurd hcut (by decide)
  · have hts : tokens (Text.strip "by - ((TITLE))".toList) =
        [.literal "by - ".toList, .placeholder Field.title.name] := by
      decide +kernel
    have hread : read? (tokens (Text.strip "by - ((TITLE))".toList))
        (Text.strip "by - Song".toList) none [] = some [⟨Field.title.name, "Song".toList⟩] := by
      rw [hts]
      decide
    have hextract : Edit.Extracts (.ofMarker none) (.text "by - Song".toList)
        (.text "by - ((TITLE))".toList) .null .null [(.title, "Song".toList)] :=
      ⟨_, _, _, _, rfl, rfl, ⟨by decide, by decide +kernel⟩, rfl, hread, rfl, by decide⟩
    have hrun := (parse_eq_ok_iff hmarker Tag.textual_empty Tag.nodup_keys_empty).2
      ⟨_, hextract, rfl, rfl, rfl⟩
    obtain ⟨q, c, marks, t', hq, hc, hmarks, hsubject, hin, -⟩ :=
      (warnings_of_loss hmarker Tag.textual_empty).2 Tag.nodup_keys_empty _ _ _ _ _ _
        (by rw [hts]; intro f; cases f <;> decide) hrun
    have hfields : fields (Text.strip "by - ((TITLE))".toList) = [.title] := by
      rw [fields, hts]
      decide
    obtain ⟨v, hv, hget⟩ := hin .title (by rw [hfields]; exact List.mem_cons_self)
    cases hq
    cases hc
    have hm : Marks (Text.strip "by - Song".toList) 0 ["by - ".toList] [0] := by decide
    rw [hts] at hmarks hv
    obtain rfl := hmarks.unique hm
    have hcaptures : captures (Text.strip "by - Song".toList) 0
        [.literal "by - ".toList, .placeholder Field.title.name] [0] =
          [⟨Field.title.name, "Song".toList⟩] := by
      decide
    rw [hcaptures, List.mem_singleton, Capture.mk.injEq] at hv
    obtain ⟨-, rfl⟩ := hv
    refine ⟨t', hrun.trans ?_, hget⟩
    rw [hsubject]
    rfl

end Session

end NameTag
