import NameTag.Text.Blank
import Mathlib.Data.List.DropRight

/-!
# Texts without blanks at their ends

`LeftStripped t` and `RightStripped t` say that the first and the last character of `t`, if there is
one, is no blank. `strip_eq_self_iff`: a text has both properties exactly if stripping leaves it
alone.
-/

namespace NameTag.Text

/-- The text does not begin with a blank. -/
def LeftStripped (t : Text) : Prop :=
  ∀ c ∈ t.head?, isBlank c = false

/-- The text does not end with a blank. -/
def RightStripped (t : Text) : Prop :=
  ∀ c ∈ t.getLast?, isBlank c = false

@[simp] theorem leftStripped_nil : LeftStripped [] := by simp [LeftStripped]

@[simp] theorem rightStripped_nil : RightStripped [] := by simp [RightStripped]

@[simp] theorem leftStripped_cons {c : Char} {t : Text} :
    LeftStripped (c :: t) ↔ isBlank c = false := by
  simp [LeftStripped]

/-! ## The left end -/

theorem stripLeft_eq_self_iff {t : Text} : stripLeft t = t ↔ t.LeftStripped := by
  cases t with
  | nil => simp [stripLeft]
  | cons c t =>
    rw [stripLeft, List.dropWhile_eq_self_iff, leftStripped_cons]
    simp

theorem leftStripped_stripLeft (t : Text) : (stripLeft t).LeftStripped :=
  stripLeft_eq_self_iff.1 (List.dropWhile_idempotent isBlank t)

theorem LeftStripped.of_isPrefix {s t : Text} (ht : t.LeftStripped) (h : s <+: t) :
    s.LeftStripped := by
  obtain ⟨u, rfl⟩ := h
  cases s with
  | nil => exact leftStripped_nil
  | cons c s => simpa using ht

theorem LeftStripped.append {s t : Text} (hs : s.LeftStripped) (h : s ≠ []) :
    (s ++ t).LeftStripped := by
  cases s with
  | nil => exact absurd rfl h
  | cons c s => simpa using hs

/-! ## The right end -/

theorem stripRight_eq_rdropWhile (t : Text) : stripRight t = t.rdropWhile isBlank := rfl

theorem stripRight_isPrefix (t : Text) : stripRight t <+: t :=
  List.rdropWhile_prefix isBlank t

theorem rightStripped_iff_getLast {t : Text} :
    t.RightStripped ↔ ∀ h : t ≠ [], ¬ isBlank (t.getLast h) = true := by
  constructor
  · intro ht h
    rw [ht _ (List.getLast_mem_getLast? h)]
    exact Bool.false_ne_true
  · intro ht c hc
    obtain ⟨h, rfl⟩ := List.mem_getLast?_eq_getLast hc
    exact Bool.eq_false_iff.2 (ht h)

theorem stripRight_eq_self_iff {t : Text} : stripRight t = t ↔ t.RightStripped := by
  rw [stripRight_eq_rdropWhile, List.rdropWhile_eq_self_iff, rightStripped_iff_getLast]

theorem rightStripped_stripRight (t : Text) : (stripRight t).RightStripped :=
  stripRight_eq_self_iff.1 (List.rdropWhile_idempotent _ _)

theorem rightStripped_append {s t : Text} (h : t ≠ []) :
    RightStripped (s ++ t) ↔ t.RightStripped := by
  rw [RightStripped, List.getLast?_append_of_ne_nil _ h]
  rfl

theorem RightStripped.append {s t : Text} (ht : t.RightStripped) (h : t ≠ []) :
    (s ++ t).RightStripped :=
  (rightStripped_append h).2 ht

/-- Only blanks are taken off the right end. -/
theorem exists_stripRight_append (t : Text) :
    ∃ blanks, t = stripRight t ++ blanks ∧ ∀ c ∈ blanks, isBlank c = true :=
  ⟨t.rtakeWhile isBlank, List.rdropWhile_append_rtakeWhile.symm,
    fun _ hc => List.mem_rtakeWhile_imp hc⟩

/-- Blanks after a text that does not end with one are what stripping takes off. -/
theorem stripRight_append_blanks {s blanks : Text} (hs : s.RightStripped)
    (hb : ∀ c ∈ blanks, isBlank c = true) : stripRight (s ++ blanks) = s := by
  induction blanks using List.reverseRecOn with
  | nil => rw [List.append_nil, stripRight_eq_self_iff.2 hs]
  | append_singleton bs b ih =>
    rw [stripRight_eq_rdropWhile, ← List.append_assoc,
      List.rdropWhile_concat_pos _ _ _ (hb b (by simp)), ← stripRight_eq_rdropWhile]
    exact ih fun c hc => hb c (List.mem_append_left _ hc)

theorem head?_stripRight {c : Char} {t : Text} (h : isBlank c = false) :
    (stripRight (c :: t)).head? = some c := by
  obtain ⟨cs, he, hc⟩ := exists_stripRight_append (c :: t)
  cases hs : stripRight (c :: t) with
  | nil =>
    rw [hs, List.nil_append] at he
    rw [hc c (he ▸ List.mem_cons_self)] at h
    cases h
  | cons a s =>
    rw [hs, List.cons_append, List.cons.injEq] at he
    rw [List.head?_cons, he.1]

/-! ## Both ends -/

theorem leftStripped_strip (t : Text) : (strip t).LeftStripped :=
  (leftStripped_stripLeft t).of_isPrefix (stripRight_isPrefix _)

theorem rightStripped_strip (t : Text) : (strip t).RightStripped :=
  rightStripped_stripRight _

theorem strip_eq_self_iff {t : Text} : strip t = t ↔ t.LeftStripped ∧ t.RightStripped := by
  constructor
  · intro h
    rw [← h]
    exact ⟨leftStripped_strip t, rightStripped_strip t⟩
  · rintro ⟨hl, hr⟩
    rw [strip, stripLeft_eq_self_iff.2 hl, stripRight_eq_self_iff.2 hr]

@[simp] theorem strip_strip (t : Text) : strip (strip t) = strip t :=
  strip_eq_self_iff.2 ⟨leftStripped_strip t, rightStripped_strip t⟩

/-- A text that begins with no blank is stripped to nothing only if it is nothing. -/
theorem LeftStripped.strip_eq_nil_iff {t : Text} (h : t.LeftStripped) : strip t = [] ↔ t = [] := by
  cases t with
  | nil => exact iff_of_true rfl rfl
  | cons c t =>
    have hhead := head?_stripRight (t := t) (leftStripped_cons.1 h)
    rw [strip, stripLeft_eq_self_iff.2 h]
    refine iff_of_false (fun he => ?_) (List.cons_ne_nil c t)
    rw [he] at hhead
    cases hhead

/-- Stripping leaves nothing exactly of blanks. -/
theorem strip_eq_nil_iff {t : Text} : strip t = [] ↔ ∀ c ∈ t, isBlank c = true := by
  have hleft := leftStripped_stripLeft t
  have hstrip : strip t = strip (stripLeft t) := by
    rw [strip, strip, stripLeft_eq_self_iff.2 hleft]
  rw [hstrip, hleft.strip_eq_nil_iff, stripLeft, List.dropWhile_eq_nil_iff]

theorem length_strip_le (t : Text) : (strip t).length ≤ t.length :=
  (stripRight_isPrefix _).length_le.trans (List.length_dropWhile_le _ _)

end NameTag.Text
