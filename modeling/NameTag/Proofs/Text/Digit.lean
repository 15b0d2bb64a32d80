import NameTag.Store
import NameTag.Proofs.Text.Strip
import Mathlib.Algebra.Group.Nat.Defs

/-!
# Track numbers in digits

The number that ASCII digits denote. `isTrackNumber_iff`: a text is a track number if it consists of
digits and their number lies between 1 and 255, whatever zeros come first. A number written in
decimal denotes itself, with zeros before it or not, and digits are the number that they denote, filled
up with zeros.
-/

namespace NameTag

theorem isAsciiDigit_iff {c : Char} : isAsciiDigit c = true ↔ 48 ≤ c.toNat ∧ c.toNat ≤ 57 := by
  simp only [isAsciiDigit, Bool.and_eq_true, decide_eq_true_eq]
  rfl

theorem isAsciiDigit_of_isDigit {c : Char} (h : c.isDigit = true) : isAsciiDigit c = true := by
  simp only [Char.isDigit, Bool.and_eq_true, decide_eq_true_eq] at h
  exact isAsciiDigit_iff.2 h

theorem digitValue?_of_isAsciiDigit {c : Char} (h : isAsciiDigit c = true) :
    digitValue? c = some (c.toNat - '0'.toNat) := by
  have hc := isAsciiDigit_iff.1 h
  have hrange : 48 ≤ c.toNat ∧ c.toNat < 48 + 10 := by omega
  rw [digitValue?, digitZeros, List.findSome?_cons, if_pos hrange]
  rfl

theorem isDecimalDigit_of_isAsciiDigit {c : Char} (h : isAsciiDigit c = true) :
    isDecimalDigit c = true := by
  rw [isDecimalDigit, digitValue?_of_isAsciiDigit h]
  rfl

theorem isBlank_of_isAsciiDigit {c : Char} (h : isAsciiDigit c = true) : isBlank c = false := by
  have hc := isAsciiDigit_iff.1 h
  refine Bool.eq_false_iff.2 fun hb => ?_
  simp only [isBlank, blankRanges, Ranges.has, List.any_cons, List.any_nil, Bool.or_eq_true,
    Bool.and_eq_true, decide_eq_true_eq, Bool.false_eq_true, or_false] at hb
  omega

namespace Text

variable {t : Text} {n : Nat}

theorem strip_of_isAsciiDigit (h : ∀ c ∈ t, isAsciiDigit c = true) : strip t = t := by
  refine strip_eq_self_iff.2 ⟨fun c hc => ?_, fun c hc => ?_⟩
  · exact isBlank_of_isAsciiDigit (h c (List.mem_of_mem_head? hc))
  · exact isBlank_of_isAsciiDigit (h c (List.mem_of_getLast? hc))

theorem decimalValue_eq_ofDigitChars (h : ∀ c ∈ t, isAsciiDigit c = true) :
    decimalValue t = Nat.ofDigitChars 10 t 0 := by
  have hfold : ∀ n : Nat, t.foldl (fun n c => 10 * n + (digitValue? c).getD 0) n =
      Nat.ofDigitChars 10 t n := by
    intro n
    induction t generalizing n with
    | nil => rfl
    | cons c t ih =>
      rw [List.forall_mem_cons] at h
      rw [List.foldl_cons, digitValue?_of_isAsciiDigit h.1, Nat.ofDigitChars_cons, ih h.2]
      rfl
  exact hfold 0

theorem mem_of_mem_dropWhile {p : Char → Bool} {c : Char} (h : c ∈ t.dropWhile p) : c ∈ t :=
  (List.dropWhile_suffix p).subset h

/-- Zeros at the beginning do not count. -/
theorem decimalValue_dropWhile_zero (t : Text) :
    decimalValue (t.dropWhile (· == '0')) = decimalValue t := by
  induction t with
  | nil => rfl
  | cons c t ih =>
    by_cases hc : c = '0'
    · rw [hc, List.dropWhile_cons_of_pos rfl, ih]
      rfl
    · rw [List.dropWhile_cons_of_neg (by simpa using hc)]

/-- Digits that do not begin with a zero denote at least the power of ten of the first. -/
theorem pow_length_le_decimalValue {c : Char} (hc : c ≠ '0')
    (h : ∀ d ∈ c :: t, isAsciiDigit d = true) : 10 ^ t.length ≤ decimalValue (c :: t) := by
  have hrange := isAsciiDigit_iff.1 (h c List.mem_cons_self)
  have hne : c.toNat ≠ 48 := fun he => hc (Char.toNat_inj.1 he)
  have hone : 1 ≤ 10 * 0 + (c.toNat - '0'.toNat) := by
    show 1 ≤ 10 * 0 + (c.toNat - 48)
    omega
  rw [decimalValue_eq_ofDigitChars h, Nat.ofDigitChars_cons, Nat.ofDigitChars_eq_ofDigitChars_zero]
  calc 10 ^ t.length = 10 ^ t.length * 1 := (Nat.mul_one _).symm
    _ ≤ 10 ^ t.length * (10 * 0 + (c.toNat - '0'.toNat)) := Nat.mul_le_mul_left _ hone
    _ ≤ _ := Nat.le_add_right _ _

/-- More than three digits, not counting zeros at the beginning, denote at least 1000. -/
theorem le_decimalValue_of_length (h : ∀ c ∈ t, isAsciiDigit c = true)
    (hl : 3 < (t.dropWhile (· == '0')).length) : 1000 ≤ decimalValue t := by
  rw [← decimalValue_dropWhile_zero t]
  have hd : ∀ c ∈ t.dropWhile (· == '0'), isAsciiDigit c = true :=
    fun c hc => h c (mem_of_mem_dropWhile hc)
  have hhead := List.head?_dropWhile_not (· == '0') t
  cases hcs : t.dropWhile (· == '0') with
  | nil => simp [hcs] at hl
  | cons c cs =>
    rw [hcs] at hd hl hhead
    have hc : c ≠ '0' := by simpa using hhead
    have hlen : 3 ≤ cs.length := Nat.le_of_lt_succ hl
    exact (Nat.pow_le_pow_right (by omega) hlen).trans (pow_length_le_decimalValue hc hd)

theorem isAsciiDigit_ofNat : ∀ c ∈ ofNat n, isAsciiDigit c = true :=
  fun _ hc => isAsciiDigit_of_isDigit (Nat.isDigit_of_mem_toDigits (by decide) (by decide) hc)

theorem decimalValue_ofNat : decimalValue (ofNat n) = n :=
  (decimalValue_eq_ofDigitChars isAsciiDigit_ofNat).trans Nat.ofDigitChars_ten_toDigits

theorem isAsciiDigit_ofNatPadded {width : Nat} :
    ∀ c ∈ ofNatPadded width n, isAsciiDigit c = true := by
  intro c hc
  rw [ofNatPadded, List.mem_append] at hc
  rcases hc with hc | hc
  · rw [List.eq_of_mem_replicate hc]
    decide
  · exact isAsciiDigit_ofNat c hc

theorem decimalValue_ofNatPadded {width : Nat} : decimalValue (ofNatPadded width n) = n := by
  rw [decimalValue_eq_ofDigitChars isAsciiDigit_ofNatPadded, ofNatPadded, Nat.ofDigitChars_append,
    Nat.ofDigitChars_replicate_zero, Nat.mul_zero]
  exact Nat.ofDigitChars_ten_toDigits

theorem decimalValue_concat (t : Text) (c : Char) :
    decimalValue (t ++ [c]) = 10 * decimalValue t + (digitValue? c).getD 0 := by
  rw [decimalValue, List.foldl_append]
  rfl

/-- Digits denote less than the power of ten of their number. -/
theorem decimalValue_lt (h : ∀ c ∈ t, isAsciiDigit c = true) : decimalValue t < 10 ^ t.length := by
  induction t using List.reverseRecOn with
  | nil => decide
  | append_singleton t c ih =>
    have hc := digitValue?_of_isAsciiDigit (h c (by simp))
    have hrange := isAsciiDigit_iff.1 (h c (by simp))
    have ht := ih fun c hc => h c (List.mem_append_left _ hc)
    have hzero : '0'.toNat = 48 := rfl
    rw [decimalValue_concat, hc, Option.getD_some, List.length_append, List.length_singleton,
      Nat.pow_succ]
    omega

/-- Equally many digits that denote the same number are the same. -/
theorem eq_of_decimalValue_eq {s : Text} (hs : ∀ c ∈ s, isAsciiDigit c = true)
    (ht : ∀ c ∈ t, isAsciiDigit c = true) (hlen : s.length = t.length)
    (h : decimalValue s = decimalValue t) : s = t := by
  induction s using List.reverseRecOn generalizing t with
  | nil => exact (List.length_eq_zero_iff.1 hlen.symm).symm
  | append_singleton s a ih =>
    rcases List.eq_nil_or_concat' t with rfl | ⟨t, b, rfl⟩
    · simp at hlen
    have ha := isAsciiDigit_iff.1 (hs a (by simp))
    have hb := isAsciiDigit_iff.1 (ht b (by simp))
    have hzero : '0'.toNat = 48 := rfl
    rw [decimalValue_concat, decimalValue_concat, digitValue?_of_isAsciiDigit (hs a (by simp)),
      digitValue?_of_isAsciiDigit (ht b (by simp)), Option.getD_some, Option.getD_some] at h
    obtain rfl : a = b := Char.toNat_inj.1 (by omega)
    rw [ih (fun c hc => hs c (List.mem_append_left _ hc))
      (fun c hc => ht c (List.mem_append_left _ hc)) (by simpa using hlen) (by omega)]

theorem length_ofNatPadded {width : Nat} (hw : 0 < width) (h : n < 10 ^ width) :
    (ofNatPadded width n).length = width := by
  have hle : (Nat.toDigits 10 n).length ≤ width := (Nat.length_toDigits_le_iff (by decide) hw).2 h
  rw [ofNatPadded, ofNat, List.length_append, List.length_replicate]
  omega

/-- A number of more than one digit does not begin with a zero. -/
theorem head?_ofNat_ne_zero (h : 1 < (ofNat n).length) : (ofNat n).head? ≠ some '0' := by
  intro hzero
  obtain ⟨t, ht⟩ := List.head?_eq_some_iff.1 hzero
  have hd : ∀ c ∈ ofNat n, isAsciiDigit c = true := isAsciiDigit_ofNat
  have hn : decimalValue (ofNat n) = n := decimalValue_ofNat
  rw [ht] at hd hn
  rw [ht, List.length_cons] at h
  have hlt : n < 10 ^ t.length := hn ▸ decimalValue_lt (List.forall_mem_cons.1 hd).2
  have hle : (ofNat n).length ≤ t.length :=
    (Nat.length_toDigits_le_iff (by decide) (by omega)).2 hlt
  rw [ht, List.length_cons] at hle
  omega

/-- Digits are the number that they denote, filled up to their length. -/
theorem ofNatPadded_decimalValue (h : ∀ c ∈ t, isAsciiDigit c = true) (hne : t ≠ []) :
    ofNatPadded t.length (decimalValue t) = t :=
  eq_of_decimalValue_eq isAsciiDigit_ofNatPadded h
    (length_ofNatPadded (List.length_pos_of_ne_nil hne) (decimalValue_lt h))
    decimalValue_ofNatPadded

end Text

/-- A year is four digits. -/
theorem isYear_iff {t : Text} :
    isYear t = true ↔ t.length = 4 ∧ ∀ c ∈ t, isAsciiDigit c = true := by
  simp [isYear]

/-- A track number is digits that denote a number between 1 and 255. -/
theorem isTrackNumber_iff {t : Text} :
    isTrackNumber t = true ↔
      (∀ c ∈ t, isAsciiDigit c = true) ∧ 1 ≤ Text.decimalValue t ∧ Text.decimalValue t ≤ 255 := by
  by_cases ht : t = []
  · rw [ht]
    exact iff_of_false (by decide) fun h => absurd h.2.1 (by decide)
  by_cases hd : ∀ c ∈ t, isAsciiDigit c = true
  · have hall : t.all isAsciiDigit = true := List.all_eq_true.2 hd
    by_cases hl : (t.dropWhile (· == '0')).length ≤ 3
    · have hn : trackNumber? t = some (Text.decimalValue t) := by
        simp [trackNumber?, ht, hall, hl, Text.decimalValue_dropWhile_zero]
      simp only [isTrackNumber, hn, Bool.and_eq_true, decide_eq_true_eq]
      constructor
      · rintro ⟨h₁, h₂⟩
        exact ⟨hd, by omega, by omega⟩
      · rintro ⟨-, h₁, h₂⟩
        omega
    · have hn : trackNumber? t = none := by
        simp [trackNumber?, ht, hall, hl]
      have hbig := Text.le_decimalValue_of_length hd (Nat.lt_of_not_le hl)
      simp only [isTrackNumber, hn, Bool.false_eq_true, false_iff, not_and]
      intro _ _
      omega
  · have hall : t.all isAsciiDigit = false := by
      rw [← Bool.not_eq_true, List.all_eq_true]
      exact hd
    have hn : trackNumber? t = none := by simp [trackNumber?, hall]
    simp only [isTrackNumber, hn, Bool.false_eq_true, false_iff]
    exact fun h => hd h.1

end NameTag
