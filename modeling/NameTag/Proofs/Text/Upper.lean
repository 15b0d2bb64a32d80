import NameTag.Proofs.Text.Case

/-!
# Upper case

Upper case is final: what stands in an upper case is its own upper case (`upper_upper`). The images
of a run lie apart from the other runs of the table, or between the code points that a run with gaps
covers. A bracket is the upper case of itself only.
-/

namespace NameTag

/-! ## Runs -/

namespace CaseRun

/-- The images of `r` lie in the gaps of `s`. -/
def between (r s : CaseRun) : Bool :=
  decide (0 < s.first ∧ s.step = 2) && decide (r.step = 2 ∨ r.first = r.last) &&
    decide ((r.first + r.shift - s.first) % 2 = 1)

/-- No image of `r` is covered by the runs, which are in order: a run ends before the images, or it
and all runs behind it begin after them, or the images lie in its gaps. -/
def clears (r : CaseRun) : List CaseRun → Bool
  | [] => true
  | s :: rest =>
    bif s.last.blt r.range.1 then clears r rest
    else r.range.2.blt s.first || (r.between s && clears r rest)

variable {r s : CaseRun} {runs : List CaseRun} {n m : Nat}

theorem image?_eq_none (h : m < s.first ∨ s.last < m) : s.image? m = none := by
  rw [image?, if_neg]
  simp only [covers, Bool.and_eq_true, decide_eq_true_eq]
  omega

theorem image?_of_between (h : r.between s = true) (hm : r.image? n = some m) :
    s.image? m = none := by
  simp only [between, Bool.and_eq_true, decide_eq_true_eq] at h
  obtain ⟨⟨⟨hpos, hstep⟩, hr⟩, hodd⟩ := h
  rw [image?] at hm ⊢
  split at hm
  · next hn =>
    cases hm
    refine if_neg fun hs => ?_
    simp only [covers, Bool.and_eq_true, decide_eq_true_eq, beq_iff_eq, hstep] at hn hs
    rcases hr with hr | hr
    · rw [hr] at hn
      omega
    · omega
  · cases hm

/-- What `clears` looks at is enough if the runs are in the order of their first code points. -/
theorem findSome?_of_clears (hruns : runs.Pairwise fun s t => s.first ≤ t.first)
    (h : r.clears runs = true) (hm : r.image? n = some m) :
    runs.findSome? (·.image? m) = none := by
  obtain ⟨-, hlo, hhi⟩ := bounds_of_image? hm
  induction runs with
  | nil => rfl
  | cons s runs ih =>
    obtain ⟨hs, hrest⟩ := List.pairwise_cons.1 hruns
    rw [clears, cond_eq_ite] at h
    split at h
    · next hlast =>
      rw [Nat.blt_eq] at hlast
      rw [List.findSome?_cons, image?_eq_none (.inr (by omega))]
      exact ih hrest h
    · rcases Bool.or_eq_true_iff.1 h with hfirst | hgaps
      · rw [Nat.blt_eq] at hfirst
        rw [List.findSome?_eq_none_iff]
        intro t ht
        have hle : s.first ≤ t.first := by
          rcases List.mem_cons.1 ht with rfl | ht
          · exact Nat.le_refl _
          · exact hs t ht
        exact image?_eq_none (.inl (by omega))
      · obtain ⟨hbetween, hrest'⟩ := Bool.and_eq_true_iff.1 hgaps
        rw [List.findSome?_cons, image?_of_between hbetween hm]
        exact ih hrest hrest'

theorem pairwise_of_isChain (h : (runs.map (·.first)).IsChain (· ≤ ·)) :
    runs.Pairwise fun s t => s.first ≤ t.first :=
  List.pairwise_map.1 (List.isChain_iff_pairwise.1 h)

end CaseRun

/-! ## Characters -/

variable {c d : Char} {n m : Nat}

/-- Where the characters of the long upper cases lie. -/
def longImageRanges : Ranges := [
  (0x41, 0x5a), (0x2bc, 0x2be), (0x300, 0x342), (0x386, 0x38f), (0x391, 0x3ab), (0x531, 0x556),
  (0x1f08, 0x1f0f), (0x1f28, 0x1f2f), (0x1f68, 0x1f6f), (0x1fba, 0x1fbb), (0x1fca, 0x1fcb),
  (0x1ffa, 0x1ffb)]

/-- What makes upper case final: the tables of upper case are in order, and map none of the
characters that they map to. -/
structure FinalTables : Prop where
  ordered : (upperRuns.map (·.first)).IsChain (· ≤ ·)
  longOrdered : (longRuns.map (·.first)).IsChain (· ≤ ·)
  clear : upperRuns.all (fun r => r.clears upperRuns && r.clears longRuns) = true
  longClear : Ranges.apart (upperRuns.map CaseRun.domain) longImageRanges = true
  longLongClear : Ranges.apart (longRuns.map CaseRun.domain) longImageRanges = true
  longWithin : longUppers.all (fun p => p.2.all longImageRanges.has) = true

theorem finalTables : FinalTables where
  ordered := by decide +kernel
  longOrdered := by decide +kernel
  clear := by decide +kernel
  longClear := by decide +kernel
  longLongClear := by decide +kernel
  longWithin := by decide +kernel

/-- No table of upper case maps the code point. -/
def Unmapped (n : Nat) : Prop :=
  upperRuns.findSome? (·.image? n) = none ∧ longUppers.lookup n = none

theorem unmapped_image (h : upperRuns.findSome? (·.image? n) = some m) : Unmapped m := by
  obtain ⟨r, hr, hm⟩ := List.exists_of_findSome?_eq_some h
  obtain ⟨hu, hl⟩ := Bool.and_eq_true_iff.1 (List.all_eq_true.1 finalTables.clear r hr)
  exact ⟨CaseRun.findSome?_of_clears (CaseRun.pairwise_of_isChain finalTables.ordered) hu hm,
    lookup_longUppers_eq_none
      (CaseRun.findSome?_of_clears (CaseRun.pairwise_of_isChain finalTables.longOrdered) hl hm)⟩

theorem unmapped_longImage {codes : List Nat} (h : longUppers.lookup n = some codes)
    (hm : m ∈ codes) : Unmapped m := by
  obtain ⟨l₁, l₂, hl, -⟩ := List.lookup_eq_some_iff.1 h
  have hp : (n, codes) ∈ longUppers := by
    rw [hl]
    simp
  have hwithin : longImageRanges.has m = true :=
    List.all_eq_true.1 (List.all_eq_true.1 finalTables.longWithin _ hp) m hm
  exact ⟨CaseRun.findSome?_image?_of_apart finalTables.longClear hwithin,
    lookup_longUppers_eq_none
      (CaseRun.findSome?_image?_of_apart finalTables.longLongClear hwithin)⟩

/-- A character that no table maps is its own upper case. -/
theorem upperChar_eq_self (hlower : c.isLower = false) (h : Unmapped c.toNat) :
    upperChar c = [c] := by
  unfold upperChar
  split
  · next hc =>
    have hascii : ∀ n < 128, (Char.ofNat n).isLower = false →
        [(Char.ofNat n).toUpper] = [Char.ofNat n] := by
      decide
    exact forall_ascii (P := fun c => c.isLower = false → [c.toUpper] = [c]) hascii hc hlower
  · rw [h.2, h.1, Option.getD_none, Char.ofNat_toNat]

/-- What stands in an upper case is its own upper case. -/
theorem upperChar_of_mem (hd : d ∈ upperChar c) : upperChar d = [d] := by
  have hlower := not_isLower_of_upperChar hd
  -- a code point that is no character becomes the null character
  have hself : ∀ n, d = Char.ofNat n → Unmapped n → upperChar d = [d] := by
    intro n hn h
    rcases toNat_ofNat_eq n with he | he
    · rw [← he, ← hn] at h
      exact upperChar_eq_self hlower h
    · have hnull : d = '\x00' := Char.toNat_inj.1 (by rw [hn, he]; rfl)
      rw [hnull]
      rfl
  have himage := hd
  unfold upperChar at himage
  split at himage
  · next hc =>
    have hascii : ∀ n < 128, upperChar (Char.ofNat n).toUpper = [(Char.ofNat n).toUpper] := by
      decide
    rw [List.mem_singleton.1 himage]
    exact forall_ascii (P := fun c => upperChar c.toUpper = [c.toUpper]) hascii hc
  · split at himage
    · next codes hcodes =>
      obtain ⟨n, hn, he⟩ := List.mem_map.1 himage
      exact hself n he.symm (unmapped_longImage hcodes hn)
    · next hlong =>
      cases hf : upperRuns.findSome? (·.image? c.toNat) with
      | none =>
        rw [hf, Option.getD_none] at himage
        exact hself c.toNat (List.mem_singleton.1 himage) ⟨hf, hlong⟩
      | some m =>
        rw [hf, Option.getD_some] at himage
        exact hself m (List.mem_singleton.1 himage) (unmapped_image hf)

/-- No character but a bracket has a bracket in its upper case. -/
theorem eq_of_bracket_mem_upperChar (hd : d ∈ upperChar c) (h : d = '(' ∨ d = ')') : c = d := by
  have hrange : plainRanges.has d.toNat = true := by
    rcases h with rfl | rfl <;> rfl
  exact (caseless_plainRanges.eq_of_upperChar hd hrange).symm

namespace Text

variable {t : Text}

@[simp] theorem upper_upper (t : Text) : upper (upper t) = upper t := by
  have hself : ∀ s : Text, (∀ d ∈ s, upperChar d = [d]) → upper s = s := by
    intro s hs
    rw [upper, List.flatMap_congr hs]
    exact List.flatMap_singleton' s
  refine hself _ fun d hd => ?_
  obtain ⟨c, -, hc⟩ := List.mem_flatMap.1 hd
  exact upperChar_of_mem hc

/-- The brackets in an upper case are those of the text. -/
theorem bracket_mem_of_mem_upper {b : Char} (hb : b = '(' ∨ b = ')') (h : b ∈ upper t) : b ∈ t := by
  obtain ⟨c, hc, hbc⟩ := List.mem_flatMap.1 h
  exact eq_of_bracket_mem_upperChar hbc hb ▸ hc

end Text

end NameTag
