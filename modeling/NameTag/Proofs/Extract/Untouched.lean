import NameTag.Proofs.StoreRun

/-!
# What a parse does not touch

A parse that succeeds adds the fields of its pattern and leaves every other name with its value
(`Session.parse_untouched`). There is one exception, the comment of a tag that gets a track number:
it is cut to make room, and a warning says so if that changes it.
-/

namespace NameTag

/-- Whether a warning says that the comment was cut. -/
def Warning.isAboutComment : Warning → Bool
  | .truncated f _ => f == .comment
  | .commentShrunk _ => true
  | _ => false

namespace Tag

variable {marker : Option Text} {t u : Tag} {f : Field} {s : Text} {l : List (Field × Text)}

/-! ## The comment beside other stores -/

theorem get?_comment_put (hf : f ≠ .comment) :
    (t.put marker f s).get? Field.comment.name =
      if f = .trackNumber then (t.shortened marker).get? Field.comment.name
      else t.get? Field.comment.name := by
  rw [get?_put, if_neg fun he => hf (Field.name_injective he).symm]

theorem filter_putWarnings (hf : f ≠ .comment) :
    (t.putWarnings marker f s).filter Warning.isAboutComment =
      if f = .trackNumber then t.putWarnings marker .trackNumber [] else [] := by
  have hsilent : (f == Field.comment) = false := beq_eq_false_iff_ne.2 hf
  rw [putWarnings, putWarnings, if_pos rfl]
  by_cases hn : f = .trackNumber
  · rw [if_pos hn, if_pos hn]
    split <;> rfl
  · rw [if_neg hn, if_neg hn]
    split
    · simp [Warning.isAboutComment, hsilent]
    · rfl

theorem filter_putEachWarnings (hc : .comment ∉ l.map (·.1)) (hn : .trackNumber ∉ l.map (·.1)) :
    (t.putEachWarnings marker l).filter Warning.isAboutComment = [] := by
  induction l generalizing t with
  | nil => rfl
  | cons a l ih =>
    rw [List.map_cons, List.mem_cons, not_or] at hc hn
    rw [putEachWarnings, List.filter_append, ih hc.2 hn.2, filter_putWarnings (Ne.symm hc.1),
      if_neg (Ne.symm hn.1), List.append_nil]

/-- Stores of other fields, a track number once among them, do to the comment what the track number
does. -/
theorem comment_putEach (hc : .comment ∉ l.map (·.1)) (hone : (l.map (·.1)).Nodup)
    (hn : .trackNumber ∈ l.map (·.1)) :
    (t.putEach marker l).get? Field.comment.name = (t.shortened marker).get? Field.comment.name ∧
      (t.putEachWarnings marker l).filter Warning.isAboutComment =
        t.putWarnings marker .trackNumber [] := by
  induction l generalizing t with
  | nil => cases hn
  | cons a l ih =>
    rw [List.map_cons, List.mem_cons] at hn
    rw [List.map_cons, List.mem_cons, not_or] at hc
    rw [List.map_cons, List.nodup_cons] at hone
    have hget := @get?_comment_put marker t a.1 (Text.strip a.2) (Ne.symm hc.1)
    rw [putEach, putEachWarnings, List.filter_append, filter_putWarnings (Ne.symm hc.1)]
    by_cases ha : a.1 = .trackNumber
    · -- the later stores are of neither field
      have hlater : Field.trackNumber ∉ l.map (·.1) := ha ▸ hone.1
      rw [if_pos ha] at hget ⊢
      rw [filter_putEachWarnings hc.2 hlater, List.append_nil,
        get?_name_putEach hc.2 fun _ => hlater]
      exact ⟨hget, rfl⟩
    · -- the comment is as before when the track number is stored
      rw [if_neg ha] at hget ⊢
      have htext := text_congr hget
      obtain ⟨hrest, hwarn⟩ := ih (t := t.put marker a.1 (Text.strip a.2)) hc.2 hone.2
        (hn.resolve_left (Ne.symm ha))
      rw [hrest, hwarn, get?_shortened, get?_shortened, putWarnings, putWarnings, if_pos rfl,
        if_pos rfl, htext, shortenedComment_congr htext, hget]
      exact ⟨rfl, rfl⟩

/-- A comment is cut beside a track number, with a warning if that changes it. -/
theorem comment_putEach_of_cut (hc : .comment ∉ l.map (·.1)) (hone : (l.map (·.1)).Nodup)
    (hn : .trackNumber ∈ l.map (·.1)) (htext : t.text .comment ≠ []) :
    (t.putEach marker l).get? Field.comment.name = some (.text (t.shortenedComment marker)) ∧
      (t.putEachWarnings marker l).filter Warning.isAboutComment =
        if t.shortenedComment marker ≠ t.text .comment then
          [.commentShrunk (t.shortenedComment marker)]
        else [] := by
  obtain ⟨hget, hwarn⟩ := @comment_putEach marker t l hc hone hn
  rw [hget, hwarn, get?_shortened, if_pos ⟨rfl, htext⟩, putWarnings, if_pos rfl]
  exact ⟨rfl, rfl⟩

/-- Without a track number the comment stays, and so does a comment that is empty. -/
theorem comment_putEach_of_kept (hc : .comment ∉ l.map (·.1)) (hone : (l.map (·.1)).Nodup)
    (h : ¬ (.trackNumber ∈ l.map (·.1) ∧ t.text .comment ≠ [])) :
    (t.putEach marker l).get? Field.comment.name = t.get? Field.comment.name ∧
      (t.putEachWarnings marker l).filter Warning.isAboutComment = [] := by
  by_cases hn : .trackNumber ∈ l.map (·.1)
  · have hempty : t.text .comment = [] := not_not.1 fun htext => h ⟨hn, htext⟩
    obtain ⟨hget, hwarn⟩ := @comment_putEach marker t l hc hone hn
    rw [hget, hwarn, get?_shortened, if_neg fun he => he.2 hempty, putWarnings, if_pos rfl,
      shortenedComment_of_empty hempty, hempty, if_neg (not_not.2 rfl)]
    exact ⟨rfl, rfl⟩
  · exact ⟨get?_name_putEach hc fun _ => hn, filter_putEachWarnings hc hn⟩

end Tag

namespace Session

open Pattern

/-- A parse that succeeds touches only what its pattern names, if it names no field twice. It adds
the fields of the pattern to the names in the tag, and nothing for placeholders that are ignored;
all other names keep their values. Only if the pattern names the track number without the comment,
a comment that is there is cut to make room for it, with a warning if that changes it. -/
theorem parse_untouched {s : Session} {marker : Option Text} {t : Tag} {source mode weed : Value}
    {p : Text} {n : Nat} {ws : List Warning} {subject : Subject}
    (hmarker : s.settings.marker = .ofMarker marker) (ht : t.Textual) (hkeys : t.keys.Nodup)
    (hone : ∀ f : Field, (placeholders (tokens (Text.strip p))).count f.name ≤ 1)
    (h : (parse (.editable t) source (.text p) mode weed s).1 = (.ok ⟨.ok n, ws⟩, subject)) :
    let named := fields (Text.strip p)
    let short := Text.trim (t.text .comment) (some 28) marker
    ∃ t', subject = .editable t' ∧ t'.keys.Nodup ∧
      (∀ key, key ∈ t'.keys ↔ key ∈ t.keys ∨ ∃ f ∈ named, key = f.name) ∧
      (Field.ignored ∈ t'.keys ↔ Field.ignored ∈ t.keys) ∧
      (∀ key, key ≠ Field.comment.name → (∀ f ∈ named, key ≠ f.name) →
        t'.get? key = t.get? key) ∧
      (.comment ∉ named → .trackNumber ∈ named → t.text .comment ≠ [] →
        t'.get? Field.comment.name = some (.text short) ∧
        ws.filter Warning.isAboutComment =
          if short ≠ t.text .comment then [.commentShrunk short] else []) ∧
      (.comment ∉ named → ¬ (.trackNumber ∈ named ∧ t.text .comment ≠ []) →
        t'.get? Field.comment.name = t.get? Field.comment.name ∧
        ws.filter Warning.isAboutComment = []) := by
  intro named short
  obtain ⟨l, hl, rfl, rfl, -⟩ := (parse_eq_ok_iff hmarker ht hkeys).1 h
  have hmem : ∀ f : Field, f ∈ l.map (·.1) ↔ f ∈ named := fun f => hl.mem_iff
  have hkey : ∀ key, key ∈ (t.putEach marker l).keys ↔
      key ∈ t.keys ∨ ∃ f ∈ named, key = f.name := by
    intro key
    rw [ht.mem_keys_putEach]
    simp only [hmem]
  have hignored : Field.ignored ∈ (t.putEach marker l).keys ↔ Field.ignored ∈ t.keys := by
    rw [hkey]
    refine or_iff_left ?_
    rintro ⟨f, -, hf⟩
    exact Field.ignored_ne_name f hf
  refine ⟨_, rfl, ht.nodup_keys_putEach hkeys, hkey, hignored, fun key hne hk => ?_,
    fun hc hn htext => ?_, fun hc hno => ?_⟩
  · exact Tag.get?_putEach_of_not_mem (fun f hf => hk f ((hmem f).1 hf)) fun he => absurd he hne
  · rw [← hmem] at hc hn
    exact Tag.comment_putEach_of_cut hc (hl.nodup hone) hn htext
  · rw [← hmem] at hc hno
    exact Tag.comment_putEach_of_kept hc (hl.nodup hone) hno

/-- A comment that is cut beside a track number, and a name that is no field. -/
theorem parse_untouched_comment :
    let s : Session := { settings := { marker := .text "..".toList } }
    let t : Tag := ⟨[("MOOD".toList, .text "calm".toList),
      (Field.comment.name, .text (List.replicate 40 'c'))]⟩
    let short := List.replicate 26 'c' ++ "..".toList
    ∃ t', (parse (.editable t) (.text "07 - Song".toList)
        (.text "((TRACKNUM)) - ((TITLE))".toList) .null .null s).1 =
          (.ok ⟨.ok 2, [.commentShrunk short]⟩, .editable t') ∧
      t'.get? "MOOD".toList = some (.text "calm".toList) ∧
      t'.get? Field.comment.name = some (.text short) := by
  intro s t short
  have ht : t.Textual := Tag.textual_of_entries (by simp [t])
  have hkeys : t.keys.Nodup := by decide
  have hts : tokens (Text.strip "((TRACKNUM)) - ((TITLE))".toList) =
      [.placeholder Field.trackNumber.name, .literal " - ".toList,
        .placeholder Field.title.name] := by
    decide +kernel
  have hread : read? (tokens (Text.strip "((TRACKNUM)) - ((TITLE))".toList))
      (Text.strip "07 - Song".toList) none [] =
        some [⟨Field.trackNumber.name, "07".toList⟩, ⟨Field.title.name, "Song".toList⟩] := by
    rw [hts]
    decide
  have hextract : Edit.Extracts (.ofMarker (some "..".toList)) (.text "07 - Song".toList)
      (.text "((TRACKNUM)) - ((TITLE))".toList) .null .null
      [(.trackNumber, "07".toList), (.title, "Song".toList)] :=
    ⟨_, _, _, _, rfl, rfl, ⟨by decide, by decide +kernel⟩, rfl, hread, rfl, by decide⟩
  have hmarker : s.settings.marker = .ofMarker (some "..".toList) := rfl
  have hrun := (parse_eq_ok_iff hmarker ht hkeys).2 ⟨_, hextract, rfl, rfl, rfl⟩
  obtain ⟨t', hsubject, -, -, -, hother, hcomment, -⟩ := parse_untouched hmarker ht hkeys
    (by rw [hts]; intro f; cases f <;> decide) hrun
  have hfields : fields (Text.strip "((TRACKNUM)) - ((TITLE))".toList) =
      [.trackNumber, .title] := by
    rw [fields, hts]
    decide
  rw [hfields] at hother hcomment
  refine ⟨t', hrun.trans ?_, hother _ (by decide) (by decide), ?_⟩
  · rw [hsubject]
    rfl
  · exact (hcomment (by decide) (by decide) (by decide)).1

end Session

end NameTag
