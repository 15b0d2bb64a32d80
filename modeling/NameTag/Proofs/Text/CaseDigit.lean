import NameTag.Proofs.Text.Capitals
import NameTag.Proofs.Text.Digit

/-!
# Case modes and digits

A case mode leaves digits alone (`inCase_of_digits`) and makes digits of nothing else
(`digits_of_inCase`). It makes nothing of a text only if there is nothing in it.
-/

namespace NameTag

variable {c d : Char}

theorem has_plainRanges_of_digit (h : isAsciiDigit c = true) : plainRanges.has c.toNat = true :=
  Ranges.has_iff.2 ⟨(0x30, 0x39), by decide, isAsciiDigit_iff.1 h⟩

/-- Every character of the text is a digit from `0` to `9`. -/
def Text.Digits (t : Text) : Prop :=
  ∀ c ∈ t, isAsciiDigit c = true

theorem upperChar_of_digit (h : isAsciiDigit c = true) : upperChar c = [c] :=
  caseless_plainRanges.upperChar_of_has (has_plainRanges_of_digit h)

/-- What becomes of a character in a case mode: if there is a digit in it, it is the character. -/
theorem isAsciiDigit_of_digits {s : Text} (hne : s ≠ [])
    (h : ∀ d ∈ s, isAsciiDigit d = true → d = c) (hs : s.Digits) : isAsciiDigit c = true := by
  obtain ⟨d, hd⟩ := List.exists_mem_of_ne_nil s hne
  exact h d hd (hs d hd) ▸ hs d hd

namespace Text

variable {before s t : Text} {m : CaseMode}

theorem digits_append : Digits (s ++ t) ↔ s.Digits ∧ t.Digits :=
  List.forall_mem_append

theorem digits_cons : Digits (c :: t) ↔ isAsciiDigit c = true ∧ t.Digits :=
  List.forall_mem_cons

/-! ## Digits in a case mode -/

theorem lowerAfter_of_digits (h : t.Digits) : lowerAfter before t = t := by
  induction t generalizing before with
  | nil => rfl
  | cons a t ih =>
    obtain ⟨ha, ht⟩ := digits_cons.1 h
    rw [lowerAfter, ih ht,
      caseless_plainRanges.lowerBetween_of_has (has_plainRanges_of_digit ha)]
    rfl

theorem digits_of_lowerAfter (h : (lowerAfter before t).Digits) : t.Digits := by
  induction t generalizing before with
  | nil => exact h
  | cons a t ih =>
    obtain ⟨ha, ht⟩ := digits_append.1 h
    have hdigits : ∀ d ∈ lowerBetween before a t, isAsciiDigit d = true → d = a := fun d hd hdigit =>
      caseless_plainRanges.eq_of_lowerBetween hd (has_plainRanges_of_digit hdigit)
    exact digits_cons.2 ⟨isAsciiDigit_of_digits lowerBetween_ne_nil hdigits ha, ih ht⟩

theorem eq_of_digit_upperChar (hd : d ∈ upperChar c) (h : isAsciiDigit d = true) : d = c :=
  caseless_plainRanges.eq_of_upperChar hd (has_plainRanges_of_digit h)

theorem capitalizeFirst_of_digits (h : t.Digits) : capitalizeFirst t = t := by
  cases t with
  | nil => rfl
  | cons a t =>
    rw [capitalizeFirst, upperChar_of_digit (digits_cons.1 h).1]
    rfl

theorem digits_of_capitalizeFirst (h : (capitalizeFirst t).Digits) : t.Digits := by
  cases t with
  | nil => exact h
  | cons a t =>
    obtain ⟨ha, ht⟩ := digits_append.1 h
    exact digits_cons.2
      ⟨isAsciiDigit_of_digits (upperChar_ne_nil a) (fun d => eq_of_digit_upperChar) ha, ht⟩

theorem capitalizeWords_of_digits {fresh : Bool} (h : t.Digits) : capitalizeWords fresh t = t := by
  induction t generalizing fresh with
  | nil => rfl
  | cons a t ih =>
    obtain ⟨ha, ht⟩ := digits_cons.1 h
    rw [capitalizeWords, ih ht, upperChar_of_digit ha, ite_self]
    rfl

theorem digits_of_capitalizeWords {fresh : Bool} (h : (capitalizeWords fresh t).Digits) :
    t.Digits := by
  induction t generalizing fresh with
  | nil => exact h
  | cons a t ih =>
    obtain ⟨ha, ht⟩ := digits_append.1 h
    refine digits_cons.2 ⟨?_, ih ht⟩
    split at ha
    · exact isAsciiDigit_of_digits (upperChar_ne_nil a) (fun d => eq_of_digit_upperChar) ha
    · exact ha a (List.mem_singleton_self a)

theorem inCase_of_digits (h : t.Digits) : inCase m t = t := by
  have hlower : lower t = t := lowerAfter_of_digits h
  cases m with
  | lower => exact hlower
  | first => rw [inCase, hlower, capitalizeFirst_of_digits h]
  | words => rw [inCase, hlower, capitalizeWords_of_digits h]

theorem digits_of_inCase (h : (inCase m t).Digits) : t.Digits := by
  cases m with
  | lower => exact digits_of_lowerAfter h
  | first => exact digits_of_lowerAfter (digits_of_capitalizeFirst h)
  | words => exact digits_of_lowerAfter (digits_of_capitalizeWords h)

/-! ## Nothing in a case mode -/

theorem inCase_eq_nil_iff : inCase m t = [] ↔ t = [] := by
  constructor
  · intro h
    by_contra ht
    cases m with
    | lower => exact lower_ne_nil ht h
    | words => exact capitalizeWords_ne_nil (lower_ne_nil ht) h
    | first =>
      cases hl : lower t with
      | nil => exact lower_ne_nil ht hl
      | cons a s =>
        rw [inCase, hl, capitalizeFirst] at h
        exact List.append_ne_nil_of_left_ne_nil (upperChar_ne_nil a) _ h
  · rintro rfl
    cases m <;> rfl

/-- Stripping a text in a case mode gives the stripped text in a case mode. -/
theorem exists_strip_inCase (m : CaseMode) (t : Text) :
    ∃ m', strip (inCase m t) = inCase m' (strip t) := by
  rw [strip_inCase]
  split
  · exact ⟨.lower, rfl⟩
  · exact ⟨m, rfl⟩

end Text

end NameTag
