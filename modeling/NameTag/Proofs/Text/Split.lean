import Mathlib.Data.List.Infix
import NameTag.Proofs.Text.Occurrence

/-!
# Texts split at a character

Cutting a text at a character again and again splits it. The pieces are as many as the occurrences
and one more, and they are the only texts of that number that the character joins to the text
(`join_eq_iff`).
-/

namespace NameTag.Text

variable {c : Char} {before after t : Text} {pieces : List Text}

/-! ## Cutting at a character -/

theorem cut?_of_not_mem (h : c ∉ t) : cut? [c] t = none := by
  rw [cut?_eq_none_iff]
  rintro before rest rfl
  exact h (by simp)

theorem cut?_append_cons (h : c ∉ before) :
    cut? [c] (before ++ c :: after) = some (before, after) := by
  induction before with
  | nil => exact cut?_of_after? (after?_eq_some.2 rfl)
  | cons a before ih =>
    rw [List.mem_cons, not_or] at h
    have hno : ¬ [c] <+: a :: (before ++ c :: after) :=
      fun hp => h.1 (List.cons_prefix_cons.1 hp).1
    rw [List.cons_append, cut?_cons_of_not_isPrefix hno, ih h.2]
    rfl

theorem occursIn_singleton_iff : occursIn [c] t = true ↔ c ∈ t := by
  rw [occursIn_iff, List.singleton_infix_iff]

/-! ## Joining with a character -/

/-- Joining adds one character between neighbours. -/
theorem count_join (h : pieces ≠ []) :
    (join [c] pieces).count c + 1 = pieces.flatten.count c + pieces.length := by
  induction pieces with
  | nil => exact absurd rfl h
  | cons p pieces ih =>
    cases pieces with
    | nil => simp [join]
    | cons q pieces =>
      have hrest := ih (List.cons_ne_nil q pieces)
      rw [join, List.intercalate_cons_cons, ← join, List.count_append, List.count_append,
        List.count_singleton_self, List.flatten_cons, List.count_append, List.length_cons]
      omega

/-! ## Splitting -/

theorem count_append_cons (h : c ∉ before) :
    (before ++ c :: after).count c = after.count c + 1 := by
  rw [List.count_append, List.count_eq_zero.2 h, Nat.zero_add, List.count_cons_self]

theorem length_splitOn (c : Char) (t : Text) : (t.splitOn c).length = t.count c + 1 := by
  induction hn : t.count c generalizing t with
  | zero => rw [List.splitOn_eq_singleton (List.count_eq_zero.1 hn), List.length_singleton]
  | succ n ih =>
    have hmem : c ∈ t := List.count_pos_iff.1 (by omega)
    obtain ⟨before, after, rfl, hbefore⟩ := List.eq_append_cons_of_mem hmem
    rw [count_append_cons hbefore] at hn
    rw [List.splitOn_append_cons_self_of_not_mem hbefore, List.length_cons, ih after (by omega)]

/-- Texts that a character joins to a text are the pieces of the text, if none of them contains the
character, that is, if they are as many as the pieces. -/
theorem join_eq_iff :
    (pieces.length = t.count c + 1 ∧ join [c] pieces = t) ↔ pieces = t.splitOn c := by
  constructor
  · rintro ⟨hlen, rfl⟩
    have hne : pieces ≠ [] := by
      rintro rfl
      cases hlen
    have hcount := count_join (c := c) hne
    have hnot : c ∉ pieces.flatten := List.count_eq_zero.1 (by omega)
    exact (List.splitOn_intercalate c
      (fun p hp hc => hnot (List.mem_flatten.2 ⟨p, hp, hc⟩)) hne).symm
  · rintro rfl
    exact ⟨length_splitOn c t, List.intercalate_splitOn c⟩

end NameTag.Text
