import NameTag.Frame.Timestamp
import NameTag.Proofs.Text.Integer

/-!
# Timestamps of one number

A timestamp of digits alone is one number (`Timestamp.normalize_digits`), so a year of four digits is
written back as it is, with its zeros (`Timestamp.write_year`).
-/

namespace NameTag

namespace Timestamp

variable {t : Text}

/-- A text without blanks and separators is one part. -/
theorem parts_eq_singleton (current : Text) (afterBlank : Bool)
    (h : ∀ c ∈ t, isBlank c = false ∧ isSeparator c = false) :
    parts current afterBlank t = [current.reverse ++ t] := by
  induction t generalizing current afterBlank with
  | nil => rw [parts, List.append_nil]
  | cons c t ih =>
    obtain ⟨⟨hb, hs⟩, ht⟩ := List.forall_mem_cons.1 h
    rw [parts, if_neg (by simp [hb]), if_neg (by simp [hs]), ih _ _ ht, List.reverse_cons,
      List.append_assoc]
    rfl

theorem isSeparator_of_isAsciiDigit {c : Char} (h : isAsciiDigit c = true) :
    isSeparator c = false := by
  have hc := isAsciiDigit_iff.1 h
  refine Bool.eq_false_iff.2 fun hs => ?_
  simp only [isSeparator, Bool.or_eq_true, beq_iff_eq] at hs
  rcases hs with (((rfl | rfl) | rfl) | rfl) | rfl <;> exact absurd hc (by decide)

/-- Digits alone are one part. -/
theorem normalize_digits (hd : ∀ c ∈ t, isAsciiDigit c = true) (hne : t ≠ [])
    (hlen : t.length ≤ maxIntegerDigits) :
    normalize t = write [(Text.decimalValue t : Int)] := by
  have hparts : parts [] false t = [t] :=
    parts_eq_singleton [] false fun c hc =>
      ⟨isBlank_of_isAsciiDigit (hd c hc), isSeparator_of_isAsciiDigit (hd c hc)⟩
  have hread : Text.readInteger t = .ok (Text.decimalValue t) :=
    Text.readInteger_of_isDecimalDigit (fun c hc => isDecimalDigit_of_isAsciiDigit (hd c hc)) hne hlen
  rw [normalize, hparts]
  simp [leads, numbers, hread]

theorem write_year (h : isYear t = true) : write [(Text.decimalValue t : Int)] = t := by
  obtain ⟨hlen, hd⟩ := isYear_iff.1 h
  have hne : t ≠ [] := by
    rintro rfl
    cases hlen
  have hwrite := Text.ofNatPadded_decimalValue hd hne
  rw [hlen] at hwrite
  simp [write, leads, widths, hwrite]

end Timestamp

end NameTag
