import NameTag.Text.Case
import NameTag.Proofs.Text.Strip

/-!
# Case and blanks

Where ranges of characters and the tables of case are apart, the characters have no case, and no
others become one of them when their case changes (`Ranges.Caseless`). Blanks, brackets and digits
are such characters. So blanks at the ends of a text stay when it is put into lower case, and what
stands between them does not see them (`lower_blanks`).
-/

namespace NameTag

/-! ## Ranges apart -/

namespace Ranges

/-- No range of one list meets a range of the other. -/
def apart (A B : Ranges) : Bool :=
  A.all fun a => B.all fun b => Nat.blt a.2 b.1 || Nat.blt b.2 a.1

variable {A B : Ranges} {n : Nat}

theorem has_iff : A.has n = true ↔ ∃ a ∈ A, a.1 ≤ n ∧ n ≤ a.2 := by
  simp [has]

theorem has_eq_false_of_apart (h : A.apart B = true) (hn : A.has n = true) : B.has n = false := by
  obtain ⟨a, ha, hlo, hhi⟩ := has_iff.1 hn
  rw [Bool.eq_false_iff]
  intro hB
  obtain ⟨b, hb, hlo', hhi'⟩ := has_iff.1 hB
  have hab := List.all_eq_true.1 (List.all_eq_true.1 h a ha) b hb
  rw [Bool.or_eq_true, Nat.blt_eq, Nat.blt_eq] at hab
  omega

end Ranges

/-! ## Runs -/

namespace CaseRun

/-- The range of the code points that the run covers. -/
def domain (r : CaseRun) : Nat × Nat :=
  (r.first, r.last)

/-- The range of their images. -/
def range (r : CaseRun) : Nat × Nat :=
  (Int.toNat (r.first + r.shift), Int.toNat (r.last + r.shift))

variable {r : CaseRun} {runs : List CaseRun} {R : Ranges} {n m : Nat}

theorem bounds_of_image? (h : r.image? n = some m) :
    (r.first ≤ n ∧ n ≤ r.last) ∧ r.range.1 ≤ m ∧ m ≤ r.range.2 := by
  unfold image? at h
  split at h
  · next hc =>
    cases h
    simp only [covers, Bool.and_eq_true, decide_eq_true_eq] at hc
    unfold range
    omega
  · cases h

/-- A code point in ranges that the runs do not cover is shifted by none of them. -/
theorem findSome?_image?_of_apart (h : Ranges.apart (runs.map domain) R = true)
    (hn : R.has n = true) : runs.findSome? (·.image? n) = none := by
  rw [List.findSome?_eq_none_iff]
  intro r hr
  by_contra hne
  obtain ⟨m, hm⟩ := Option.ne_none_iff_exists'.1 hne
  have hcovered : Ranges.has (runs.map domain) n = true :=
    Ranges.has_iff.2 ⟨r.domain, List.mem_map_of_mem hr, (bounds_of_image? hm).1⟩
  rw [Ranges.has_eq_false_of_apart h hcovered] at hn
  cases hn

/-- An image lies in no ranges that the runs do not reach. -/
theorem not_has_of_findSome? (h : Ranges.apart (runs.map range) R = true)
    (hm : runs.findSome? (·.image? n) = some m) : R.has m = false := by
  obtain ⟨r, hr, hrm⟩ := List.exists_of_findSome?_eq_some hm
  exact Ranges.has_eq_false_of_apart h
    (Ranges.has_iff.2 ⟨r.range, List.mem_map_of_mem hr, (bounds_of_image? hrm).2⟩)

end CaseRun

/-! ## Characters -/

theorem toNat_ofNat_eq (n : Nat) : (Char.ofNat n).toNat = n ∨ (Char.ofNat n).toNat = 0 := by
  by_cases h : n.isValidChar
  · have hn : Char.ofNat n = Char.ofNatAux n h := dif_pos h
    exact .inl (by rw [hn]; rfl)
  · have hn : Char.ofNat n = '\x00' := dif_neg h
    exact .inr (by rw [hn]; rfl)

/-- A code point shifted by the first run that covers it, as a character. -/
def shiftedBy (runs : List CaseRun) (c : Char) : Char :=
  Char.ofNat ((runs.findSome? (·.image? c.toNat)).getD c.toNat)

variable {c d : Char} {R : Ranges} {runs : List CaseRun}

theorem shiftedBy_of_has (h : Ranges.apart (runs.map CaseRun.domain) R = true)
    (hc : R.has c.toNat = true) : shiftedBy runs c = c := by
  rw [shiftedBy, CaseRun.findSome?_image?_of_apart h hc, Option.getD_none, Char.ofNat_toNat]

/-- A shifted character that lies in ranges which the runs do not reach was not shifted. -/
theorem shiftedBy_eq_of_has (h : Ranges.apart (runs.map CaseRun.range) R = true)
    (hzero : R.has 0 = false) (hc : R.has (shiftedBy runs c).toNat = true) :
    shiftedBy runs c = c := by
  cases hf : runs.findSome? (·.image? c.toNat) with
  | none => rw [shiftedBy, hf, Option.getD_none, Char.ofNat_toNat]
  | some m =>
    rw [shiftedBy, hf, Option.getD_some] at hc
    rcases toNat_ofNat_eq m with hm | hm
    · rw [hm, CaseRun.not_has_of_findSome? h hf] at hc
      cases hc
    · rw [hm, hzero] at hc
      cases hc

/-- A fact about the characters below 128 is a finite one. -/
theorem forall_ascii {P : Char → Prop} (h : ∀ n < 128, P (Char.ofNat n)) (hc : c.toNat < 128) :
    P c := by
  have := h c.toNat hc
  rwa [Char.ofNat_toNat] at this

/-- The characters with an upper case of several characters, as runs of one code point. -/
def longRuns : List CaseRun :=
  longUppers.map fun p => ⟨p.1, p.1, 1, 0⟩

/-- The characters of these upper cases. -/
def longImages : Ranges :=
  longUppers.flatMap fun p => p.2.map fun n => (n, n)

theorem lookup_longUppers_eq_none {n : Nat} (h : longRuns.findSome? (·.image? n) = none) :
    longUppers.lookup n = none := by
  rw [List.lookup_eq_none_iff]
  intro p hp
  rw [bne_iff_ne]
  rintro rfl
  have himage := List.findSome?_eq_none_iff.1 h _ (List.mem_map_of_mem hp)
  simp [CaseRun.image?, CaseRun.covers] at himage

theorem has_longImages {n m : Nat} {codes : List Nat} (h : longUppers.lookup n = some codes)
    (hm : m ∈ codes) : longImages.has m = true := by
  obtain ⟨l₁, l₂, hl, -⟩ := List.lookup_eq_some_iff.1 h
  refine Ranges.has_iff.2 ⟨(m, m), List.mem_flatMap.2 ⟨(n, codes), by rw [hl]; simp, ?_⟩,
    Nat.le_refl m, Nat.le_refl m⟩
  exact List.mem_map.2 ⟨m, hm, rfl⟩

/-- Where one of a character and its image lies in the ranges, they are the same. -/
def Ranges.fixes (R : Ranges) (f : Char → Char) (c : Char) : Bool :=
  !(R.has c.toNat || R.has (f c).toNat) || f c == c

/-- The characters in the ranges have no case, and no other character becomes one of them when its
case changes. -/
class Ranges.Caseless (R : Ranges) : Prop where
  zero : R.has 0 = false
  lowerDomain : Ranges.apart (lowerRuns.map CaseRun.domain) R = true
  lowerRange : Ranges.apart (lowerRuns.map CaseRun.range) R = true
  upperDomain : Ranges.apart (upperRuns.map CaseRun.domain) R = true
  upperRange : Ranges.apart (upperRuns.map CaseRun.range) R = true
  longDomain : Ranges.apart (longRuns.map CaseRun.domain) R = true
  longRange : longImages.apart R = true
  /-- The characters for which lower case has rules of their own, and what becomes of them. -/
  ruled : ['Σ', 'σ', 'ς', 'İ', 'i', '\u0307'].all (fun c => !R.has c.toNat) = true
  asciiLower : (List.range 128).all (fun n => R.fixes Char.toLower (Char.ofNat n)) = true
  asciiUpper : (List.range 128).all (fun n => R.fixes Char.toUpper (Char.ofNat n)) = true

theorem Ranges.eq_of_fixes {f : Char → Char}
    (hall : (List.range 128).all (fun n => R.fixes f (Char.ofNat n)) = true) (hc : c.toNat < 128)
    (h : R.has c.toNat = true ∨ R.has (f c).toNat = true) : f c = c := by
  have hfixes := List.all_eq_true.1 hall c.toNat (List.mem_range.2 hc)
  rw [Char.ofNat_toNat, fixes, Bool.or_eq_true_iff.2 h] at hfixes
  simpa using hfixes

namespace Ranges.Caseless

theorem not_has_of_ruled (hR : R.Caseless) (hd : d ∈ ['Σ', 'σ', 'ς', 'İ', 'i', '\u0307']) :
    R.has d.toNat = false :=
  (Bool.not_eq_eq_eq_not.1 (List.all_eq_true.1 hR.ruled d hd))

theorem ne_of_ruled (hR : R.Caseless) (hd : d ∈ ['Σ', 'σ', 'ς', 'İ', 'i', '\u0307'])
    (hc : R.has c.toNat = true) : c ≠ d := by
  rintro rfl
  rw [hR.not_has_of_ruled hd] at hc
  cases hc

theorem toLower_eq (hR : R.Caseless) (hc : c.toNat < 128)
    (h : R.has c.toNat = true ∨ R.has c.toLower.toNat = true) : c.toLower = c :=
  eq_of_fixes hR.asciiLower hc h

theorem toUpper_eq (hR : R.Caseless) (hc : c.toNat < 128)
    (h : R.has c.toNat = true ∨ R.has c.toUpper.toNat = true) : c.toUpper = c :=
  eq_of_fixes hR.asciiUpper hc h

/-- Where one of a character and its lower case lies in the ranges, they are the same. -/
theorem lowerChar_eq (hR : R.Caseless)
    (h : R.has c.toNat = true ∨ R.has (lowerChar c).toNat = true) : lowerChar c = c := by
  unfold lowerChar at h ⊢
  split at h
  · next hc =>
    rw [if_pos hc]
    exact hR.toLower_eq hc h
  · next hc =>
    rw [if_neg hc]
    split at h
    · next hdotted =>
      -- the dotted capital is not in the ranges, nor is the letter it becomes
      have hi : c = 'İ' := Char.toNat_inj.1 hdotted
      rw [hi, hR.not_has_of_ruled (by decide), hR.not_has_of_ruled (by decide)] at h
      simp at h
    · next hdotted =>
      rw [if_neg hdotted]
      rcases h with h | h
      · exact shiftedBy_of_has hR.lowerDomain h
      · exact shiftedBy_eq_of_has hR.lowerRange hR.zero h

theorem upperChar_of_has (hR : R.Caseless) (h : R.has c.toNat = true) : upperChar c = [c] := by
  unfold upperChar
  split
  · next hc => rw [hR.toUpper_eq hc (.inl h)]
  · rw [lookup_longUppers_eq_none (CaseRun.findSome?_image?_of_apart hR.longDomain h)]
    exact congrArg (fun c => [c]) (shiftedBy_of_has hR.upperDomain h)

end Ranges.Caseless

/-- An upper case that lies in ranges which no upper case reaches is that of a character below 128,
or the character itself. -/
theorem of_has_upperChar (hruns : Ranges.apart (upperRuns.map CaseRun.range) R = true)
    (hlong : longImages.apart R = true) (hzero : R.has 0 = false)
    (hd : d ∈ upperChar c) (h : R.has d.toNat = true) :
    (c.toNat < 128 ∧ d = c.toUpper) ∨ (128 ≤ c.toNat ∧ d = c) := by
  unfold upperChar at hd
  split at hd
  · next hc => exact .inl ⟨hc, List.mem_singleton.1 hd⟩
  · next hc =>
    refine .inr ⟨Nat.le_of_not_lt hc, ?_⟩
    split at hd
    · next codes hcodes =>
      obtain ⟨n, hn, rfl⟩ := List.mem_map.1 hd
      have hno : R.has n = false :=
        Ranges.has_eq_false_of_apart hlong (has_longImages hcodes hn)
      rcases toNat_ofNat_eq n with hm | hm
      · rw [hm, hno] at h
        cases h
      · rw [hm, hzero] at h
        cases h
    · have hshift : d = shiftedBy upperRuns c := List.mem_singleton.1 hd
      rw [hshift] at h ⊢
      exact shiftedBy_eq_of_has hruns hzero h

namespace Ranges.Caseless

theorem eq_of_upperChar (hR : R.Caseless) (hd : d ∈ upperChar c) (h : R.has d.toNat = true) :
    d = c := by
  rcases of_has_upperChar hR.upperRange hR.longRange hR.zero hd h with ⟨hc, rfl⟩ | ⟨-, rfl⟩
  · exact hR.toUpper_eq hc (.inr h)
  · rfl

theorem lowerBetween_of_has (hR : R.Caseless) (h : R.has c.toNat = true) (before after : Text) :
    Text.lowerBetween before c after = [c] := by
  rw [Text.lowerBetween, if_neg (hR.ne_of_ruled (by decide) h),
    if_neg (hR.ne_of_ruled (by decide) h), hR.lowerChar_eq (.inl h)]

theorem eq_of_lowerBetween (hR : R.Caseless) {before after : Text}
    (hd : d ∈ Text.lowerBetween before c after) (h : R.has d.toNat = true) : d = c := by
  unfold Text.lowerBetween at hd
  split at hd
  · rw [List.mem_singleton] at hd
    split at hd
    · exact absurd hd (hR.ne_of_ruled (by decide) h)
    · exact absurd hd (hR.ne_of_ruled (by decide) h)
  · split at hd
    · rcases List.mem_cons.1 hd with hd | hd
      · exact absurd hd (hR.ne_of_ruled (by decide) h)
      · exact absurd (List.mem_singleton.1 hd) (hR.ne_of_ruled (by decide) h)
    · obtain rfl := List.mem_singleton.1 hd
      exact hR.lowerChar_eq (.inr h)

end Ranges.Caseless

/-- The small letters of ASCII. -/
theorem isLower_iff_has : c.isLower = true ↔ Ranges.has [(0x61, 0x7a)] c.toNat = true := by
  have hlower : c.isLower = (decide (c.val ≥ 'a'.val) && decide (c.val ≤ 'z'.val)) := rfl
  simp only [hlower, Bool.and_eq_true, decide_eq_true_eq, ge_iff_le, Ranges.has_iff,
    List.mem_singleton, exists_eq_left]
  exact Iff.rfl

/-- No upper case is a small letter of ASCII. -/
theorem not_isLower_of_upperChar (hd : d ∈ upperChar c) : d.isLower = false := by
  rw [Bool.eq_false_iff]
  intro h
  have hrange := isLower_iff_has.1 h
  rcases of_has_upperChar (R := [(0x61, 0x7a)]) (by decide +kernel) (by decide +kernel) (by decide)
    hd hrange with ⟨hc, rfl⟩ | ⟨hc, rfl⟩
  · have hascii : ∀ n < 128, (Char.ofNat n).toUpper.isLower = false := by decide
    rw [forall_ascii (P := fun c => c.toUpper.isLower = false) hascii hc] at h
    cases h
  · obtain ⟨r, hr, -, hhi⟩ := Ranges.has_iff.1 hrange
    cases List.mem_singleton.1 hr
    have hlast : d.toNat ≤ 0x7a := hhi
    omega

theorem upperChar_ne_nil (c : Char) : upperChar c ≠ [] := by
  unfold upperChar
  split
  · exact List.cons_ne_nil _ _
  · split
    · next codes hcodes =>
      obtain ⟨l₁, l₂, hl, -⟩ := List.lookup_eq_some_iff.1 hcodes
      have hne : ∀ p ∈ longUppers, p.2 ≠ [] := by decide
      rw [ne_eq, List.map_eq_nil_iff]
      exact hne (c.toNat, codes) (by rw [hl]; simp)
    · exact List.cons_ne_nil _ _

/-- A blank has no case, and where case depends on context it does not count. -/
theorem cased_of_blank (h : isBlank c = true) : isCaseIgnorable c = false ∧ isCased c = false :=
  ⟨Ranges.has_eq_false_of_apart (A := blankRanges) (by decide +kernel) h,
    Ranges.has_eq_false_of_apart (A := blankRanges) (by decide +kernel) h⟩

variable {before after t x bs cs : Text}

namespace Text

/-! ## Lower case -/

theorem lowerBetween_ne_nil : lowerBetween before c after ≠ [] := by
  unfold lowerBetween
  split
  · exact List.cons_ne_nil _ _
  · split
    · exact List.cons_ne_nil _ _
    · exact List.cons_ne_nil _ _

/-- A blank ends the context that case depends on. -/
theorem meetsCased_append_blanks (hb : ∀ c ∈ bs, isBlank c = true) :
    meetsCased (x ++ bs) = meetsCased x := by
  induction x with
  | nil =>
    cases bs with
    | nil => rfl
    | cons b bs =>
      have hblank := hb b List.mem_cons_self
      rw [List.nil_append, meetsCased,
        List.dropWhile_cons_of_neg (by rw [(cased_of_blank hblank).1]; simp)]
      exact (cased_of_blank hblank).2
  | cons a x ih =>
    unfold meetsCased at ih ⊢
    rw [List.cons_append]
    by_cases ha : isCaseIgnorable a = true
    · rw [List.dropWhile_cons_of_pos ha, List.dropWhile_cons_of_pos ha]
      exact ih
    · rw [List.dropWhile_cons_of_neg ha, List.dropWhile_cons_of_neg ha]

theorem lowerBetween_append_blanks (hb : ∀ c ∈ bs, isBlank c = true)
    (hc : ∀ c ∈ cs, isBlank c = true) (a : Char) :
    lowerBetween (before ++ bs) a (after ++ cs) = lowerBetween before a after := by
  unfold lowerBetween
  rw [meetsCased_append_blanks hb, meetsCased_append_blanks hc]

/-- Blanks far before a text do not change its lower case. -/
theorem lowerAfter_append_blanks (hb : ∀ c ∈ bs, isBlank c = true) :
    lowerAfter (before ++ bs) t = lowerAfter before t := by
  induction t generalizing before with
  | nil => rfl
  | cons a t ih =>
    have hhead : lowerBetween (before ++ bs) a (t ++ []) = lowerBetween before a t :=
      lowerBetween_append_blanks hb (by simp) a
    rw [List.append_nil] at hhead
    rw [lowerAfter, lowerAfter, hhead, ← List.cons_append, ih]

end Text

/-! ## Blanks -/

/-- Blanks, round brackets and the digits from `0` to `9`. -/
def plainRanges : Ranges :=
  (0x28, 0x29) :: (0x30, 0x39) :: blankRanges

instance caseless_plainRanges : plainRanges.Caseless where
  zero := by decide +kernel
  lowerDomain := by decide +kernel
  lowerRange := by decide +kernel
  upperDomain := by decide +kernel
  upperRange := by decide +kernel
  longDomain := by decide +kernel
  longRange := by decide +kernel
  ruled := by decide +kernel
  asciiLower := by decide +kernel
  asciiUpper := by decide +kernel

theorem has_plainRanges_of_blank (h : isBlank c = true) : plainRanges.has c.toNat = true := by
  rw [isBlank, Ranges.has_iff] at h
  obtain ⟨r, hr, hc⟩ := h
  exact Ranges.has_iff.2 ⟨r, List.mem_cons_of_mem _ (List.mem_cons_of_mem _ hr), hc⟩

theorem upperChar_of_blank (h : isBlank c = true) : upperChar c = [c] :=
  caseless_plainRanges.upperChar_of_has (has_plainRanges_of_blank h)

theorem isBlank_of_upperChar (hd : d ∈ upperChar c) (h : isBlank d = true) : isBlank c = true :=
  caseless_plainRanges.eq_of_upperChar hd (has_plainRanges_of_blank h) ▸ h

namespace Text

theorem lowerBetween_of_blank (h : isBlank c = true) : lowerBetween before c after = [c] :=
  caseless_plainRanges.lowerBetween_of_has (has_plainRanges_of_blank h) before after

theorem isBlank_of_lowerBetween (hd : d ∈ lowerBetween before c after) (h : isBlank d = true) :
    isBlank c = true :=
  caseless_plainRanges.eq_of_lowerBetween hd (has_plainRanges_of_blank h) ▸ h

theorem lowerAfter_blanks (hb : ∀ c ∈ bs, isBlank c = true) :
    lowerAfter before (bs ++ t) = bs ++ lowerAfter (bs.reverse ++ before) t := by
  induction bs generalizing before with
  | nil => rfl
  | cons b bs ih =>
    obtain ⟨hblank, hbs⟩ := List.forall_mem_cons.1 hb
    rw [List.cons_append, lowerAfter, lowerBetween_of_blank hblank, ih hbs, List.reverse_cons,
      List.append_assoc]
    rfl

theorem lowerAfter_append (hc : ∀ c ∈ cs, isBlank c = true) :
    lowerAfter before (t ++ cs) = lowerAfter before t ++ cs := by
  induction t generalizing before with
  | nil =>
    have hblanks : lowerAfter before (cs ++ []) = cs ++ lowerAfter (cs.reverse ++ before) [] :=
      lowerAfter_blanks hc
    rw [List.append_nil] at hblanks
    rw [List.nil_append, hblanks]
    simp [lowerAfter]
  | cons a t ih =>
    have hhead : lowerBetween (before ++ []) a (t ++ cs) = lowerBetween before a t :=
      lowerBetween_append_blanks (by simp) hc a
    rw [List.append_nil] at hhead
    rw [List.cons_append, lowerAfter, lowerAfter, hhead, ih, List.append_assoc]

/-- Blanks at the ends of a text stay, and what is between them is put into lower case. -/
theorem lower_blanks (hb : ∀ c ∈ bs, isBlank c = true) (hc : ∀ c ∈ cs, isBlank c = true) :
    lower (bs ++ t ++ cs) = bs ++ lower t ++ cs := by
  have hreverse : ∀ c ∈ bs.reverse, isBlank c = true := fun c h => hb c (List.mem_reverse.1 h)
  have hcontext : lowerAfter ([] ++ bs.reverse) t = lowerAfter [] t :=
    lowerAfter_append_blanks hreverse
  rw [List.nil_append] at hcontext
  rw [lower, lowerAfter_append hc, lowerAfter_blanks hb, List.append_nil, hcontext]
  rfl

end Text

end NameTag
