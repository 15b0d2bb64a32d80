import NameTag.Proofs.Extract.Leftmost
import NameTag.Proofs.Extract.Success
import NameTag.Proofs.Session
import NameTag.Proofs.StoreOrder

/-!
# Runs of stores into tags of texts

`Tag.putEach` is the effect of storing texts in fields that accept them, one after the other, with
`Tag.putWarnings` for each. What a parse into a tag of texts stores does not depend on the tag
(`Edit.Extracts`); the tag only says what is kept of it (`Session.parse_eq_ok_iff`).
-/

namespace NameTag

namespace Tag

variable {marker : Option Text} {t : Tag} {f : Field} {s key : Text} {a : Field × Text}
  {l : List (Field × Text)}

/-! ## One store -/

theorem get?_put :
    (t.put marker f s).get? key =
      if key = f.name then some (.text (t.kept marker f s))
      else if f = .trackNumber then (t.shortened marker).get? key else t.get? key := by
  rw [put, get?_setText]
  split
  · rfl
  · split <;> rfl

/-- A store leaves other names alone, but for the comment beside a track number. -/
theorem get?_put_of_ne (hkey : key ≠ f.name) (hc : key = Field.comment.name → f ≠ .trackNumber) :
    (t.put marker f s).get? key = t.get? key := by
  rw [get?_put, if_neg hkey]
  split
  · next hf => rw [get?_shortened, if_neg fun h => hc h.1 hf]
  · rfl

theorem keys_setText :
    (t.setText f s).keys = if f.name ∈ t.keys then t.keys else t.keys ++ [f.name] :=
  keys_set t f.name (.text s)

/-- A comment that is cut was there. -/
theorem Textual.keys_shortened (ht : t.Textual) : (t.shortened marker).keys = t.keys := by
  rw [Tag.shortened]
  split
  · rfl
  · next hc =>
    have hkey : Field.comment.name ∈ t.keys := mem_keys_of_get? (ht.get?_of_text_ne hc)
    rw [keys_setText, if_pos hkey]

theorem Textual.keys_put (ht : t.Textual) :
    (t.put marker f s).keys = if f.name ∈ t.keys then t.keys else t.keys ++ [f.name] := by
  rw [Tag.put, keys_setText]
  by_cases hf : f = .trackNumber
  · rw [if_pos hf, ht.keys_shortened]
  · rw [if_neg hf]

/-- A store without a warning sets the field and nothing else. -/
theorem Textual.get?_put_of_silent (ht : t.Textual) (h : t.putWarnings marker f s = []) :
    (t.put marker f s).get? key = if key = f.name then some (.text s) else t.get? key := by
  rw [putWarnings] at h
  rw [get?_put]
  by_cases hf : f = .trackNumber
  · rw [if_pos hf] at h ⊢
    have hcomment : t.shortenedComment marker = t.text .comment := by
      by_contra hne
      rw [if_pos hne] at h
      cases h
    subst hf
    rw [get?_shortened, hcomment]
    by_cases hc : key = Field.comment.name ∧ t.text .comment ≠ []
    · rw [if_pos hc, hc.1, ht.get?_of_text_ne hc.2]
      rfl
    · rw [if_neg hc]
      rfl
  · rw [if_neg hf] at h ⊢
    have hkept : t.kept marker f s = s := by
      by_contra hne
      rw [if_pos hne] at h
      cases h
    rw [hkept]

/-! ## Stores in a row -/

/-- The tag after stores of texts, each stripped before it is stored. -/
def putEach (marker : Option Text) : Tag → List (Field × Text) → Tag
  | t, [] => t
  | t, a :: l => putEach marker (t.put marker a.1 (Text.strip a.2)) l

/-- The warnings that the stores give. -/
def putEachWarnings (marker : Option Text) : Tag → List (Field × Text) → List Warning
  | _, [] => []
  | t, a :: l =>
    t.putWarnings marker a.1 (Text.strip a.2) ++
      putEachWarnings marker (t.put marker a.1 (Text.strip a.2)) l

theorem Textual.putEach (ht : t.Textual) (l : List (Field × Text)) :
    (t.putEach marker l).Textual := by
  induction l generalizing t with
  | nil => exact ht
  | cons a l ih => exact ih (ht.put _ _)

theorem Textual.mem_keys_putEach (ht : t.Textual) :
    key ∈ (t.putEach marker l).keys ↔ key ∈ t.keys ∨ ∃ f ∈ l.map (·.1), key = Field.name f := by
  induction l generalizing t with
  | nil => simp [Tag.putEach]
  | cons a l ih =>
    have hput : key ∈ (t.put marker a.1 (Text.strip a.2)).keys ↔ key ∈ t.keys ∨ key = a.1.name := by
      rw [ht.keys_put, ← keys_setText (s := []), mem_keys_setText]
    rw [Tag.putEach, ih (ht.put _ _), hput, List.map_cons, List.exists_mem_cons_iff, or_assoc]

theorem Textual.nodup_keys_putEach (ht : t.Textual) (hkeys : t.keys.Nodup) :
    (t.putEach marker l).keys.Nodup := by
  induction l generalizing t with
  | nil => exact hkeys
  | cons a l ih =>
    refine ih (ht.put _ _) ?_
    rw [ht.keys_put, ← keys_setText (s := [])]
    exact ((Extends.refl hkeys).setText a.1 []).nodup

/-- Names that stand in the tag and are stored again stay where they are. -/
theorem Textual.keys_putEach_of_subset (ht : t.Textual) (h : ∀ a ∈ l, a.1.name ∈ t.keys) :
    (t.putEach marker l).keys = t.keys := by
  induction l generalizing t with
  | nil => rfl
  | cons a l ih =>
    obtain ⟨ha, hl⟩ := List.forall_mem_cons.1 h
    have hput : (t.put marker a.1 (Text.strip a.2)).keys = t.keys := by rw [ht.keys_put, if_pos ha]
    rw [Tag.putEach, ih (ht.put _ _) (hput.symm ▸ hl), hput]

/-- Stores leave names alone that are not among theirs; the comment's, if no track number is
stored. -/
theorem get?_putEach_of_not_mem (hkey : ∀ f ∈ l.map (·.1), key ≠ Field.name f)
    (hc : key = Field.comment.name → .trackNumber ∉ l.map (·.1)) :
    (t.putEach marker l).get? key = t.get? key := by
  induction l generalizing t with
  | nil => rfl
  | cons a l ih =>
    rw [List.map_cons, List.forall_mem_cons] at hkey
    simp only [List.map_cons, List.mem_cons, not_or] at hc
    calc (t.putEach marker (a :: l)).get? key
        = (t.put marker a.1 (Text.strip a.2)).get? key := ih hkey.2 fun he => (hc he).2
      _ = t.get? key := get?_put_of_ne hkey.1 fun he => Ne.symm (hc he).1

theorem get?_name_putEach (hf : f ∉ l.map (·.1))
    (hc : f = .comment → .trackNumber ∉ l.map (·.1)) :
    (t.putEach marker l).get? f.name = t.get? f.name :=
  get?_putEach_of_not_mem (fun _ hg he => hf (by rwa [Field.name_injective he]))
    fun he => hc (Field.name_injective he)

end Tag

/-! ## Storing what was captured -/

namespace Edit

variable {marker : Option Text} {t : Tag} {ws : List Warning} {d' : Draft} {ks : List Capture}
  {l : List (Field × Text)}

/-- The texts as they are captured under the names of their fields. -/
def capturesOf (l : List (Field × Text)) : List Capture :=
  l.map fun a => ⟨a.1.name, a.2⟩

theorem storeEach_capturesOf (ht : t.Textual)
    (h : ∀ a ∈ l, a.1.accepts (Text.strip a.2) = true) :
    storeEach (.ofMarker marker) (capturesOf l) ⟨.editable t, ws⟩ =
      .ok () ⟨.editable (t.putEach marker l), ws ++ t.putEachWarnings marker l⟩ := by
  induction l generalizing t ws with
  | nil =>
    rw [Tag.putEachWarnings, List.append_nil]
    rfl
  | cons a l ih =>
    obtain ⟨ha, hl⟩ := List.forall_mem_cons.1 h
    have hstore : store (.ofMarker marker) (.text a.1.name) (.text a.2) ⟨.editable t, ws⟩ =
        .ok (t.kept marker a.1 (Text.strip a.2)) ⟨.editable (t.put marker a.1 (Text.strip a.2)),
          ws ++ t.putWarnings marker a.1 (Text.strip a.2)⟩ :=
      (store_eq_ok_iff ht).2 ⟨a.1, rfl, by simp, ha, rfl, rfl⟩
    rw [capturesOf, List.map_cons, storeEach, bind_of_ok hstore, ← capturesOf,
      ih (ht.put _ _) hl, List.append_assoc]
    rfl

/-- A run of stores succeeds if every text goes to a field that accepts it. -/
theorem storeEach_textual_eq_ok_iff (ht : t.Textual) :
    storeEach (.ofMarker marker) ks ⟨.editable t, ws⟩ = .ok () d' ↔
      ∃ l, ks = capturesOf l ∧ (∀ a ∈ l, a.1.accepts (Text.strip a.2) = true) ∧
        d' = ⟨.editable (t.putEach marker l), ws ++ t.putEachWarnings marker l⟩ := by
  constructor
  · intro h
    have hl : ∃ l, ks = capturesOf l ∧ ∀ a ∈ l, a.1.accepts (Text.strip a.2) = true := by
      induction ks generalizing t ws with
      | nil => exact ⟨[], rfl, by simp⟩
      | cons k ks ih =>
        obtain ⟨r, d₁, hstore, hrest⟩ := bind_eq_ok_iff.1 h
        obtain ⟨f, hf, -, hacc, -, rfl⟩ := (store_eq_ok_iff ht).1 hstore
        obtain ⟨l, rfl, hl⟩ := ih (ht.put _ _) hrest
        refine ⟨(f, k.text) :: l, ?_, List.forall_mem_cons.2 ⟨hacc, hl⟩⟩
        show k :: capturesOf l = ⟨f.name, k.text⟩ :: capturesOf l
        rw [← Value.text.inj hf]
    obtain ⟨l, rfl, hl⟩ := hl
    rw [storeEach_capturesOf ht hl] at h
    cases h
    exact ⟨l, rfl, hl, rfl⟩
  · rintro ⟨l, rfl, hl, rfl⟩
    exact storeEach_capturesOf ht hl

/-- What the arguments of an extraction make it store, whatever the tag is. -/
def Extracts (marker source pattern mode weed : Value) (l : List (Field × Text)) : Prop :=
  ∃ q p c ks, source = .text q ∧ pattern = .text p ∧ Readable q p ∧
    Conversion.wanted? marker mode weed = some c ∧
    Pattern.read? (Pattern.tokens (Text.strip p)) (Text.strip q) none [] = some ks ∧
    c.stores ks = capturesOf l ∧ ∀ a ∈ l, a.1.accepts (Text.strip a.2) = true

theorem map_name_capturesOf : (capturesOf l).map (·.name) = (l.map (·.1)).map Field.name := by
  rw [capturesOf, List.map_map, List.map_map]
  rfl

variable {m source mode weed : Value} {p : Text}

/-- What is stored is for the fields of the pattern, in the order of its placeholders. -/
theorem Extracts.map_name (h : Extracts m source (.text p) mode weed l) :
    (l.map (·.1)).map Field.name =
      (Pattern.placeholders (Pattern.tokens (Text.strip p))).filter (· ≠ Field.ignored) := by
  obtain ⟨q, p, c, ks, rfl, hp, -, -, hread, hl, -⟩ := h
  cases hp
  rw [← map_name_capturesOf, ← hl, Conversion.map_name_stores, Pattern.map_name_of_read? hread]

theorem Extracts.mem_iff (h : Extracts m source (.text p) mode weed l) {f : Field} :
    f ∈ l.map (·.1) ↔ f ∈ Pattern.fields (Text.strip p) := by
  rw [← List.mem_map_of_injective fun _ _ => Field.name_injective, h.map_name, List.mem_filter,
    Pattern.mem_fields, decide_eq_true_eq]
  exact and_iff_left (Field.ignored_ne_name f).symm

/-- A field that the pattern names once is stored once. -/
theorem Extracts.nodup (h : Extracts m source (.text p) mode weed l)
    (hone : ∀ f : Field,
      (Pattern.placeholders (Pattern.tokens (Text.strip p))).count f.name ≤ 1) :
    (l.map (·.1)).Nodup := by
  refine List.nodup_iff_count_le_one.2 fun f => ?_
  calc (l.map (·.1)).count f
      ≤ ((l.map (·.1)).map Field.name).count f.name := List.count_le_count_map
    _ ≤ (Pattern.placeholders (Pattern.tokens (Text.strip p))).count f.name :=
      h.map_name ▸ List.filter_sublist.count_le _
    _ ≤ 1 := hone f

end Edit

namespace Session

variable {marker : Option Text} {t : Tag} {s : Session} {subject : Subject} {n : Nat}
  {ws : List Warning}

/-- A parse into a tag of texts succeeds if there is something to store, and leaves what storing it
leaves. -/
theorem parse_eq_ok_iff (hmarker : s.settings.marker = .ofMarker marker) (ht : t.Textual)
    (hkeys : t.keys.Nodup) {source pattern mode weed : Value} :
    (parse (.editable t) source pattern mode weed s).1 = (.ok ⟨.ok n, ws⟩, subject) ↔
      ∃ l, Edit.Extracts (.ofMarker marker) source pattern mode weed l ∧
        subject = .editable (t.putEach marker l) ∧ ws = t.putEachWarnings marker l ∧
        n = l.length := by
  rw [parse, perform_eq_ok_iff, Edit.extract_eq_ok_iff hkeys, hmarker]
  constructor
  · rintro ⟨q, p, c, ks, hq, hp, hr, hc, hread, hstore, rfl⟩
    obtain ⟨l, hl, hacc, hd⟩ := (Edit.storeEach_textual_eq_ok_iff ht).1 hstore
    cases hd
    refine ⟨l, ⟨q, p, c, ks, hq, hp, hr, hc, hread, hl, hacc⟩, rfl, rfl, ?_⟩
    rw [hl, Edit.capturesOf, List.length_map]
  · rintro ⟨l, ⟨q, p, c, ks, hq, hp, hr, hc, hread, hl, hacc⟩, rfl, rfl, rfl⟩
    refine ⟨q, p, c, ks, hq, hp, hr, hc, hread, ?_, by rw [hl, Edit.capturesOf, List.length_map]⟩
    rw [hl]
    exact Edit.storeEach_capturesOf ht hacc

end Session

end NameTag
