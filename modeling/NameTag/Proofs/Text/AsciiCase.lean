import NameTag.Proofs.Text.Words
import Mathlib.Data.List.Forall2

/-!
# Case modes of ASCII texts

A case mode changes an ASCII text position by position and in the case of letters only (`Recased`).
So the lower case of what it gives is the lower case of the text, and of two case modes the last one
decides (`inCase_by_position`).
-/

namespace NameTag

variable {c d : Char}

theorem upperChar_of_ascii (h : c.toNat < 128) : upperChar c = [c.toUpper] :=
  if_pos h

theorem toNat_toLower_lt (h : c.toNat < 128) : c.toLower.toNat < 128 :=
  forall_ascii (P := fun c => c.toLower.toNat < 128) (by decide) h

/-- The characters are the same but for the case of a letter. -/
def Recased (c d : Char) : Prop :=
  d = c ∨ c.isAlpha = true ∧ (d = c.toLower ∨ d = c.toUpper)

instance : Decidable (Recased c d) :=
  inferInstanceAs (Decidable (_ ∨ _))

/-- What a case mode makes of an ASCII character. -/
structure CaseOf (c d : Char) : Prop where
  ascii : d.toNat < 128
  recased : Recased c d
  toLower_eq : d.toLower = c.toLower

theorem caseOf_toLower (h : c.toNat < 128) : CaseOf c c.toLower where
  ascii := toNat_toLower_lt h
  recased := forall_ascii (P := fun c => Recased c c.toLower) (by decide) h
  toLower_eq := forall_ascii (P := fun c => c.toLower.toLower = c.toLower) (by decide) h

theorem caseOf_toUpper (h : c.toNat < 128) : CaseOf c c.toLower.toUpper where
  ascii := forall_ascii (P := fun c => c.toLower.toUpper.toNat < 128) (by decide) h
  recased := forall_ascii (P := fun c => Recased c c.toLower.toUpper) (by decide) h
  toLower_eq := forall_ascii (P := fun c => c.toLower.toUpper.toLower = c.toLower) (by decide) h

namespace Text

variable {t : Text} {m : CaseMode}

/-- The text holds ASCII characters only. -/
def Ascii (t : Text) : Prop :=
  ∀ c ∈ t, c.toNat < 128

instance (t : Text) : Decidable t.Ascii :=
  List.decidableBAll _ t

theorem ascii_cons : Ascii (c :: t) ↔ c.toNat < 128 ∧ t.Ascii :=
  List.forall_mem_cons

theorem lowerBetween_of_ascii (h : c.toNat < 128) (before after : Text) :
    lowerBetween before c after = [c.toLower] := by
  have hne : ∀ d : Char, 128 ≤ d.toNat → c ≠ d := by
    rintro d hd rfl
    omega
  rw [lowerBetween, if_neg (hne 'Σ' (by decide)), if_neg (hne 'İ' (by decide)), lowerChar, if_pos h]

theorem lowerAfter_of_ascii (h : t.Ascii) (before : Text) :
    lowerAfter before t = t.map Char.toLower := by
  induction t generalizing before with
  | nil => rfl
  | cons c t ih =>
    obtain ⟨hc, ht⟩ := ascii_cons.1 h
    rw [lowerAfter, lowerBetween_of_ascii hc, ih ht, List.map_cons, List.singleton_append]

theorem lower_of_ascii (h : t.Ascii) : lower t = t.map Char.toLower :=
  lowerAfter_of_ascii h []

/-! ## Position by position -/

theorem caseOf_lower (h : t.Ascii) : List.Forall₂ CaseOf t (t.map Char.toLower) := by
  rw [List.forall₂_map_right_iff, List.forall₂_same]
  exact fun c hc => caseOf_toLower (h c hc)

theorem caseOf_capitalizeFirst (h : t.Ascii) :
    List.Forall₂ CaseOf t (capitalizeFirst (t.map Char.toLower)) := by
  cases t with
  | nil => exact .nil
  | cons c t =>
    obtain ⟨hc, ht⟩ := ascii_cons.1 h
    rw [List.map_cons, capitalizeFirst, upperChar_of_ascii (toNat_toLower_lt hc)]
    exact .cons (caseOf_toUpper hc) (caseOf_lower ht)

theorem caseOf_capitalizeWords (h : t.Ascii) (fresh : Bool) :
    List.Forall₂ CaseOf t (capitalizeWords fresh (t.map Char.toLower)) := by
  induction t generalizing fresh with
  | nil => exact .nil
  | cons c t ih =>
    obtain ⟨hc, ht⟩ := ascii_cons.1 h
    rw [List.map_cons, capitalizeWords, upperChar_of_ascii (toNat_toLower_lt hc)]
    split
    · exact .cons (caseOf_toUpper hc) (ih ht _)
    · exact .cons (caseOf_toLower hc) (ih ht _)

theorem caseOf_inCase (h : t.Ascii) (m : CaseMode) : List.Forall₂ CaseOf t (inCase m t) := by
  cases m with
  | lower =>
    rw [inCase, lower_of_ascii h]
    exact caseOf_lower h
  | first =>
    rw [inCase, lower_of_ascii h]
    exact caseOf_capitalizeFirst h
  | words =>
    rw [inCase, lower_of_ascii h]
    exact caseOf_capitalizeWords h true

theorem ascii_of_caseOf {s : Text} (h : List.Forall₂ CaseOf t s) : s.Ascii := by
  induction h with
  | nil => exact List.forall_mem_nil _
  | cons hc _ ih => exact ascii_cons.2 ⟨hc.ascii, ih⟩

theorem map_toLower_of_caseOf {s : Text} (h : List.Forall₂ CaseOf t s) :
    s.map Char.toLower = t.map Char.toLower := by
  induction h with
  | nil => rfl
  | cons hc _ ih => rw [List.map_cons, List.map_cons, hc.toLower_eq, ih]

/-! ## One mode after another -/

/-- Lower case forgets a case mode. -/
theorem lower_inCase (h : t.Ascii) (m : CaseMode) : lower (inCase m t) = lower t := by
  have hcase := caseOf_inCase h m
  rw [lower_of_ascii (ascii_of_caseOf hcase), lower_of_ascii h, map_toLower_of_caseOf hcase]

/-- A case mode depends on the lower case of a text only. -/
theorem inCase_congr {s : Text} (h : lower s = lower t) (m : CaseMode) :
    inCase m s = inCase m t := by
  cases m <;> rw [inCase, inCase, h]

/-- Where words are capitalised, a character of the lower case becomes its upper case exactly if it
takes a capital and a word starts at its position; the matches of the expression for the start of a
word, which take the delimiter with the letter, are these positions. An ASCII text keeps its
characters in every case mode but for the case of letters, and a second mode undoes the first. -/
theorem inCase_by_position :
    (∀ t, inCase .words t = (lower t).zipIdx.flatMap (capitalAt (lower t)) ∧
      ∃ e, Weed.Expr.read "(^|[\\s_-])([^\\W\\d_])".toList = .ok e ∧
        e.rewrite capitalized (lower t) = inCase .words t) ∧
    ∀ t : Text, t.Ascii → ∀ m, (∀ last, inCase last (inCase m t) = inCase last t) ∧
      List.Forall₂ Recased t (inCase m t) := by
  refine ⟨fun t => ⟨?_, wordStart, read_wordStart, rewrite_wordStart (lower t)⟩,
    fun t h m => ⟨?_, ?_⟩⟩
  · exact capitalizeWords_eq_flatMap [] (lower t)
  · exact inCase_congr (lower_inCase h m)
  · exact (caseOf_inCase h m).imp fun c d hc => hc.recased

/-- Words of one letter, digits and several delimiters in a row. -/
theorem inCase_by_position_delimiters :
    let t := "a-b _C 4d-E  f".toList
    inCase .words t = "A-B _C 4d-E  F".toList ∧
      inCase .words (inCase .first t) = inCase .words t := by
  intro t
  obtain ⟨hwords, hascii⟩ := inCase_by_position
  have ht : Ascii t := by decide
  refine ⟨?_, (hascii t ht .first).1 .words⟩
  rw [(hwords t).1]
  decide +kernel

end Text

end NameTag
