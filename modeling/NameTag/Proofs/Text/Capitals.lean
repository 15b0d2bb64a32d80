import NameTag.Text.Capitals
import NameTag.Proofs.Text.Case

/-!
# Case modes and blanks

A case mode acts on what stands between the blanks at the ends of a text (`strip_inCase`). The mode
that capitalises the first character is the exception: where that character is a blank, it
capitalises nothing.
-/

namespace NameTag

variable {c d : Char}

theorem isAlphanumeric_of_blank (h : isBlank c = true) : isAlphanumeric c = false := by
  unfold isAlphanumeric
  split
  · next hc =>
    have hascii : ∀ n < 128, isBlank (Char.ofNat n) = true →
        (Char.ofNat n).isAlphanum = false := by
      decide
    exact forall_ascii (P := fun c => isBlank c = true → c.isAlphanum = false) hascii hc h
  · exact Ranges.has_eq_false_of_apart (A := blankRanges) (by decide +kernel) h

/-- A blank is no word character. -/
theorem takesCapital_of_blank (h : isBlank c = true) : takesCapital c = false := by
  have hne : c ≠ '_' := by
    rintro rfl
    exact absurd h (by decide)
  simp [takesCapital, isWordChar, isAlphanumeric_of_blank h, hne]

theorem endsWord_of_blank (h : isBlank c = true) : endsWord c = true := by
  simp [endsWord, h]

namespace Text

variable {before t bs cs : Text}

instance (t : Text) : Decidable t.LeftStripped :=
  decidable_of_iff _ stripLeft_eq_self_iff

/-! ## Blanks at the ends -/

theorem exists_blanks_strip (t : Text) :
    ∃ bs cs, t = bs ++ strip t ++ cs ∧ (∀ c ∈ bs, isBlank c = true) ∧
      ∀ c ∈ cs, isBlank c = true := by
  obtain ⟨cs, hcs, hc⟩ := exists_stripRight_append (stripLeft t)
  refine ⟨t.takeWhile isBlank, cs, ?_, ?_, hc⟩
  · rw [strip, List.append_assoc, ← hcs, stripLeft, List.takeWhile_append_dropWhile]
  · intro c h
    exact List.all_eq_true.1 List.all_takeWhile c h

/-- Blanks around a stripped text are what stripping takes off. -/
theorem strip_blanks (hb : ∀ c ∈ bs, isBlank c = true) (ht : strip t = t)
    (hc : ∀ c ∈ cs, isBlank c = true) : strip (bs ++ t ++ cs) = t := by
  obtain ⟨hl, hr⟩ := strip_eq_self_iff.1 ht
  rw [strip, stripLeft, List.append_assoc, List.dropWhile_append_of_pos hb, ← stripLeft]
  by_cases hne : t = []
  · have hall : stripLeft cs = [] := List.dropWhile_eq_nil_iff.2 hc
    rw [hne, List.nil_append, hall]
    rfl
  · rw [stripLeft_eq_self_iff.2 (hl.append hne), stripRight_append_blanks hr hc]

/-- What a character becomes begins and ends with no blank, unless the character is one. -/
theorem stripped_of_forall {s : Text} (h : ∀ d ∈ s, isBlank d = true → isBlank c = true)
    (hc : isBlank c = false) : s.LeftStripped ∧ s.RightStripped := by
  have hno : ∀ d ∈ s, isBlank d = false := by
    intro d hd
    rw [Bool.eq_false_iff]
    intro hblank
    rw [h d hd hblank] at hc
    cases hc
  constructor
  · intro d hd
    exact hno d (List.mem_of_mem_head? hd)
  · intro d hd
    exact hno d (List.mem_of_getLast? hd)

/-! ## Lower case -/

theorem lowerAfter_ne_nil (h : t ≠ []) : lowerAfter before t ≠ [] := by
  cases t with
  | nil => exact absurd rfl h
  | cons a t => exact List.append_ne_nil_of_left_ne_nil lowerBetween_ne_nil _

theorem lower_ne_nil (h : t ≠ []) : lower t ≠ [] :=
  lowerAfter_ne_nil h

theorem rightStripped_lowerAfter (h : t.RightStripped) : (lowerAfter before t).RightStripped := by
  induction t generalizing before with
  | nil => exact h
  | cons a t ih =>
    rw [lowerAfter]
    by_cases ht : t = []
    · rw [ht] at h ⊢
      have ha : isBlank a = false := h a rfl
      rw [lowerAfter, List.append_nil]
      exact (stripped_of_forall (fun d hd => isBlank_of_lowerBetween hd) ha).2
    · have hrest : RightStripped t := (rightStripped_append (s := [a]) ht).1 h
      exact (ih hrest).append (lowerAfter_ne_nil ht)

theorem strip_lower (h : strip t = t) : strip (lower t) = lower t := by
  obtain ⟨hl, hr⟩ := strip_eq_self_iff.1 h
  refine strip_eq_self_iff.2 ⟨?_, rightStripped_lowerAfter hr⟩
  cases t with
  | nil => exact leftStripped_nil
  | cons a t =>
    have ha := leftStripped_cons.1 hl
    exact (stripped_of_forall (fun d hd => isBlank_of_lowerBetween hd) ha).1.append
      lowerBetween_ne_nil

/-! ## The first character -/

theorem capitalizeFirst_append (h : t ≠ []) :
    capitalizeFirst (t ++ cs) = capitalizeFirst t ++ cs := by
  cases t with
  | nil => exact absurd rfl h
  | cons a t => rw [List.cons_append, capitalizeFirst, capitalizeFirst, List.append_assoc]

/-- A blank at the beginning is all that is capitalised. -/
theorem capitalizeFirst_of_blank (h : isBlank c = true) : capitalizeFirst (c :: t) = c :: t := by
  rw [capitalizeFirst, upperChar_of_blank h]
  rfl

theorem strip_capitalizeFirst (h : strip t = t) :
    strip (capitalizeFirst t) = capitalizeFirst t := by
  obtain ⟨hl, hr⟩ := strip_eq_self_iff.1 h
  cases t with
  | nil => rfl
  | cons a t =>
    have ha := leftStripped_cons.1 hl
    obtain ⟨hleft, hright⟩ := stripped_of_forall (fun d hd => isBlank_of_upperChar hd) ha
    rw [capitalizeFirst, strip_eq_self_iff]
    refine ⟨hleft.append (upperChar_ne_nil a), ?_⟩
    by_cases ht : t = []
    · rw [ht, List.append_nil]
      exact hright
    · exact ((rightStripped_append (s := [a]) ht).1 hr).append ht

/-! ## Words -/

/-- What becomes of one character where words are capitalised. -/
theorem forall_mem_capital {b : Bool} (hd : d ∈ if b then upperChar c else [c])
    (h : isBlank d = true) : isBlank c = true := by
  split at hd
  · exact isBlank_of_upperChar hd h
  · rwa [List.mem_singleton.1 hd] at h

theorem capitalizeWords_ne_nil {fresh : Bool} (h : t ≠ []) : capitalizeWords fresh t ≠ [] := by
  cases t with
  | nil => exact absurd rfl h
  | cons a t =>
    rw [capitalizeWords]
    refine List.append_ne_nil_of_left_ne_nil ?_ _
    split
    · exact upperChar_ne_nil a
    · exact List.cons_ne_nil _ _

theorem capitalizeWords_cons_blank {fresh : Bool} (h : isBlank c = true) :
    capitalizeWords fresh (c :: t) = c :: capitalizeWords true t := by
  rw [capitalizeWords, takesCapital_of_blank h, Bool.and_false, endsWord_of_blank h]
  rfl

/-- A word may start after blanks as it may at the beginning. -/
theorem capitalizeWords_blanks (hb : ∀ c ∈ bs, isBlank c = true) :
    capitalizeWords true (bs ++ t) = bs ++ capitalizeWords true t := by
  induction bs with
  | nil => rfl
  | cons b bs ih =>
    obtain ⟨hblank, hbs⟩ := List.forall_mem_cons.1 hb
    rw [List.cons_append, capitalizeWords_cons_blank hblank, ih hbs, List.cons_append]

theorem capitalizeWords_append {fresh : Bool} (hc : ∀ c ∈ cs, isBlank c = true) :
    capitalizeWords fresh (t ++ cs) = capitalizeWords fresh t ++ cs := by
  induction t generalizing fresh with
  | nil =>
    cases cs with
    | nil => rfl
    | cons b cs =>
      obtain ⟨hblank, hcs⟩ := List.forall_mem_cons.1 hc
      have hrest := capitalizeWords_blanks (t := []) hcs
      rw [List.append_nil] at hrest
      rw [List.nil_append, capitalizeWords_cons_blank hblank, hrest]
      simp [capitalizeWords]
  | cons a t ih => rw [List.cons_append, capitalizeWords, capitalizeWords, ih, List.append_assoc]

theorem rightStripped_capitalizeWords {fresh : Bool} (h : t.RightStripped) :
    (capitalizeWords fresh t).RightStripped := by
  induction t generalizing fresh with
  | nil => exact h
  | cons a t ih =>
    rw [capitalizeWords]
    by_cases ht : t = []
    · rw [ht] at h ⊢
      have ha : isBlank a = false := h a rfl
      rw [capitalizeWords, List.append_nil]
      exact (stripped_of_forall (fun d hd => forall_mem_capital hd) ha).2
    · have hrest : RightStripped t := (rightStripped_append (s := [a]) ht).1 h
      exact (ih hrest).append (capitalizeWords_ne_nil ht)

theorem strip_capitalizeWords {fresh : Bool} (h : strip t = t) :
    strip (capitalizeWords fresh t) = capitalizeWords fresh t := by
  obtain ⟨hl, hr⟩ := strip_eq_self_iff.1 h
  refine strip_eq_self_iff.2 ⟨?_, rightStripped_capitalizeWords hr⟩
  cases t with
  | nil => exact leftStripped_nil
  | cons a t =>
    have ha := leftStripped_cons.1 hl
    rw [capitalizeWords]
    refine (stripped_of_forall (fun d hd => forall_mem_capital hd) ha).1.append ?_
    split
    · exact upperChar_ne_nil a
    · exact List.cons_ne_nil _ _

/-! ## Case modes -/

/-- Blanks at the ends of a text stay when it is put into lower case. -/
theorem strip_lower_eq (t : Text) : strip (lower t) = lower (strip t) := by
  obtain ⟨bs, cs, he, hb, hc⟩ := exists_blanks_strip t
  conv_lhs => rw [he, lower_blanks hb hc]
  exact strip_blanks hb (strip_lower (strip_strip t)) hc

theorem strip_capitalizeWords_lower (t : Text) :
    strip (capitalizeWords true (lower t)) = capitalizeWords true (lower (strip t)) := by
  obtain ⟨bs, cs, he, hb, hc⟩ := exists_blanks_strip t
  conv_lhs => rw [he, lower_blanks hb hc, capitalizeWords_append hc, capitalizeWords_blanks hb]
  exact strip_blanks hb (strip_capitalizeWords (strip_lower (strip_strip t))) hc

/-- Where a blank comes first, there is nothing to capitalise. -/
theorem capitalizeFirst_lower_of_not_leftStripped (h : ¬ t.LeftStripped) :
    capitalizeFirst (lower t) = lower t := by
  cases t with
  | nil => exact absurd leftStripped_nil h
  | cons b t =>
    have hblank : isBlank b = true := by
      rwa [leftStripped_cons, Bool.not_eq_false] at h
    rw [lower, lowerAfter, lowerBetween_of_blank hblank]
    exact capitalizeFirst_of_blank hblank

theorem strip_capitalizeFirst_lower (h : t.LeftStripped) :
    strip (capitalizeFirst (lower t)) = capitalizeFirst (lower (strip t)) := by
  cases t with
  | nil => rfl
  | cons a t =>
    have ha := leftStripped_cons.1 h
    obtain ⟨cs, he, hc⟩ := exists_stripRight_append (a :: t)
    have hright : strip (a :: t) = stripRight (a :: t) := by
      rw [strip, stripLeft_eq_self_iff.2 h]
    rw [← hright] at he
    have hne : strip (a :: t) ≠ [] := by
      intro hnil
      rw [hnil, List.nil_append] at he
      rw [hc a (he ▸ List.mem_cons_self)] at ha
      cases ha
    have hlower : lower (strip (a :: t) ++ cs) = lower (strip (a :: t)) ++ cs :=
      lowerAfter_append hc
    have hstrip : strip ([] ++ capitalizeFirst (lower (strip (a :: t))) ++ cs) =
        capitalizeFirst (lower (strip (a :: t))) :=
      strip_blanks (by simp) (strip_capitalizeFirst (strip_lower (strip_strip _))) hc
    conv_lhs => rw [he, hlower, capitalizeFirst_append (lower_ne_nil hne)]
    exact hstrip

/-- Stripping a text that was put into a case mode gives the stripped text in that mode, except that
the first character is not capitalised after a blank. -/
theorem strip_inCase (m : CaseMode) (t : Text) :
    strip (inCase m t) =
      if m = .first ∧ ¬ t.LeftStripped then lower (strip t) else inCase m (strip t) := by
  cases m with
  | lower =>
    rw [if_neg (by simp)]
    exact strip_lower_eq t
  | words =>
    rw [if_neg (by simp)]
    exact strip_capitalizeWords_lower t
  | first =>
    by_cases hl : t.LeftStripped
    · rw [if_neg (by simp [hl])]
      exact strip_capitalizeFirst_lower hl
    · rw [if_pos ⟨rfl, hl⟩, inCase, capitalizeFirst_lower_of_not_leftStripped hl]
      exact strip_lower_eq t

end Text

end NameTag
