import NameTag.Number.Integer
import NameTag.Proofs.Text.Case
import NameTag.Proofs.Text.Digit

/-!
# Reading digits

Digits of any script are read as the number that they denote, unless there are too many
(`readNatural_of_isDecimalDigit`). They are neither blanks nor signs, so an integer may consist of
digits alone (`readInteger_of_isDecimalDigit`).
-/

namespace NameTag

variable {c : Char}

/-- The blocks of the digits of all scripts. -/
def digitRanges : Ranges :=
  digitZeros.map fun first => (first, first + 9)

theorem has_digitRanges (h : isDecimalDigit c = true) : digitRanges.has c.toNat = true := by
  rw [isDecimalDigit, digitValue?, List.isSome_findSome?, List.any_eq_true] at h
  obtain ⟨first, hfirst, hc⟩ := h
  refine Ranges.has_iff.2 ⟨(first, first + 9), List.mem_map_of_mem hfirst, ?_⟩
  split at hc
  · next hrange => exact ⟨hrange.1, Nat.le_of_lt_succ hrange.2⟩
  · cases hc

theorem isBlank_of_isDecimalDigit (h : isDecimalDigit c = true) : isBlank c = false :=
  Ranges.has_eq_false_of_apart (by decide) (has_digitRanges h)

namespace Text

variable {t : Text}

theorem leadingDigits?_of_isDecimalDigit (h : ∀ c ∈ t, isDecimalDigit c = true) (hne : t ≠ []) :
    leadingDigits? t = some (t, []) := by
  induction t with
  | nil => exact absurd rfl hne
  | cons c t ih =>
    obtain ⟨hc, ht⟩ := List.forall_mem_cons.1 h
    cases t with
    | nil => simp [leadingDigits?, hc]
    | cons d t =>
      have hd := (List.forall_mem_cons.1 ht).1
      have hscore : d ≠ '_' := by
        rintro rfl
        exact absurd hd (by decide)
      rw [leadingDigits?.eq_3 _ _ _ hscore]
      simp [hc, hd, ih ht]

/-- Digits are read as the number that they denote, unless there are too many. -/
theorem readNatural_of_isDecimalDigit (h : ∀ c ∈ t, isDecimalDigit c = true) (hne : t ≠ [])
    {written : Text} : readNatural written t =
      if maxIntegerDigits < t.length then .error (.tooLong t.length) else .ok (decimalValue t) := by
  rw [readNatural, leadingDigits?_of_isDecimalDigit h hne]
  rfl

theorem dropWhile_isIntegerBlank (h : ∀ c ∈ t, isDecimalDigit c = true) :
    t.dropWhile isIntegerBlank = t := by
  cases t with
  | nil => rfl
  | cons c t =>
    have hc := isBlank_of_isDecimalDigit (h c List.mem_cons_self)
    rw [List.dropWhile_cons, if_neg (by simp [isIntegerBlank, hc])]

theorem readInteger_of_isDecimalDigit (h : ∀ c ∈ t, isDecimalDigit c = true) (hne : t ≠ [])
    (hlen : t.length ≤ maxIntegerDigits) : readInteger t = .ok (decimalValue t) := by
  have hbare : ((t.dropWhile isIntegerBlank).reverse.dropWhile isIntegerBlank).reverse = t := by
    rw [dropWhile_isIntegerBlank h,
      dropWhile_isIntegerBlank fun c hc => h c (List.mem_reverse.1 hc), List.reverse_reverse]
  have hread : readNatural t t = .ok (decimalValue t) := by
    rw [readNatural_of_isDecimalDigit h hne, if_neg (Nat.not_lt.2 hlen)]
  have hsign : ∀ c, c = '-' ∨ c = '+' → c ∉ t := by
    rintro c (rfl | rfl) hc
    · exact absurd (h _ hc) (by decide)
    · exact absurd (h _ hc) (by decide)
  rw [readInteger, hbare]
  split
  · exact absurd List.mem_cons_self (hsign _ (.inl rfl))
  · exact absurd List.mem_cons_self (hsign _ (.inr rfl))
  · rw [hread]
    rfl

end Text

end NameTag
