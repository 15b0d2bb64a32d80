import NameTag.Text.Basic
import Mathlib.Data.List.Infix
import Mathlib.Order.Bounds.Defs

/-!
# Occurrences of a separator

`OccursAt sep t i`: the separator stands in the text at position `i`. `FirstFrom sep t c i`:
position `i` is the least one, from `c` on, where it stands. `cut?_eq_some_iff`: cutting a text at a
separator is cutting it at the first occurrence.
-/

namespace NameTag.Text

/-- The separator stands in the text at a position. -/
def OccursAt (sep t : Text) (i : Nat) : Prop :=
  i ≤ t.length ∧ sep <+: t.drop i

/-- The least position from `c` on at which the separator stands in the text. -/
def FirstFrom (sep t : Text) (c i : Nat) : Prop :=
  IsLeast {k | c ≤ k ∧ OccursAt sep t k} i

variable {sep t before after : Text} {c i j : Nat}

theorem FirstFrom.unique (hi : FirstFrom sep t c i) (hj : FirstFrom sep t c j) : i = j :=
  Nat.le_antisymm (hi.2 hj.1) (hj.2 hi.1)

theorem firstFrom_iff :
    FirstFrom sep t c i ↔
      c ≤ i ∧ OccursAt sep t i ∧ ∀ k, c ≤ k → k < i → ¬ OccursAt sep t k := by
  constructor
  · rintro ⟨⟨hc, hi⟩, hl⟩
    exact ⟨hc, hi, fun k hk hki h => absurd (hl ⟨hk, h⟩) (by omega)⟩
  · rintro ⟨hc, hi, hl⟩
    refine ⟨⟨hc, hi⟩, fun k hk => ?_⟩
    rcases Nat.lt_or_ge k i with h | h
    · exact absurd hk.2 (hl k hk.1 h)
    · exact h

instance : Decidable (OccursAt sep t i) :=
  inferInstanceAs (Decidable (_ ∧ _))

instance : Decidable (FirstFrom sep t c i) :=
  decidable_of_iff (c ≤ i ∧ OccursAt sep t i ∧ ∀ k < i, c ≤ k → ¬ OccursAt sep t k) <| by
    rw [firstFrom_iff]
    exact and_congr_right fun _ => and_congr_right fun _ =>
      ⟨fun h k hc hk => h k hk hc, fun h k hk hc => h k hc hk⟩

theorem occursAt_zero : OccursAt sep t 0 ↔ sep <+: t := by simp [OccursAt]

theorem occursAt_cons_succ {a : Char} : OccursAt sep (a :: t) (i + 1) ↔ OccursAt sep t i := by
  simp [OccursAt]

theorem occursAt_append (before sep after : Text) :
    OccursAt sep (before ++ sep ++ after) before.length := by
  rw [OccursAt, List.append_assoc, List.drop_left]
  exact ⟨by simp, List.prefix_append _ _⟩

/-- Positions after the first `c` characters are positions in the rest. -/
theorem occursAt_drop (hc : c ≤ t.length) : OccursAt sep (t.drop c) i ↔ OccursAt sep t (c + i) := by
  rw [OccursAt, OccursAt, List.length_drop, List.drop_drop]
  exact and_congr_left' (by omega)

theorem firstFrom_drop (hc : c ≤ t.length) :
    FirstFrom sep (t.drop c) 0 i ↔ FirstFrom sep t c (c + i) := by
  rw [firstFrom_iff, firstFrom_iff, occursAt_drop hc]
  refine and_congr (by omega) (and_congr_right fun _ => ⟨fun h k hk hki => ?_, fun h k _ hki => ?_⟩)
  · obtain ⟨d, rfl⟩ := Nat.exists_eq_add_of_le hk
    rw [← occursAt_drop hc]
    exact h d (Nat.zero_le _) (by omega)
  · rw [occursAt_drop hc]
    exact h _ (by omega) (by omega)

/-- An occurrence that ends within a beginning of the text is one in that beginning. -/
theorem occursAt_append_left (h : i + sep.length ≤ before.length) :
    OccursAt sep (before ++ after) i ↔ OccursAt sep before i := by
  rw [OccursAt, OccursAt, List.length_append, List.drop_append_of_le_length (by omega)]
  refine and_congr (by omega) ⟨fun hp => ?_, fun hp => hp.trans (List.prefix_append _ _)⟩
  exact List.prefix_of_prefix_length_le hp (List.prefix_append _ _)
    (by rw [List.length_drop]; omega)

/-- Whether a separator occurs first where a text ends does not depend on what follows it. -/
theorem firstFrom_append_iff (before sep after : Text) :
    FirstFrom sep (before ++ sep ++ after) 0 before.length ↔
      FirstFrom sep (before ++ sep) 0 before.length := by
  have hhere : OccursAt sep (before ++ sep) before.length := by
    have := occursAt_append before sep []
    rwa [List.append_nil] at this
  rw [firstFrom_iff, firstFrom_iff]
  refine and_congr_right fun _ => ⟨fun h => ⟨hhere, fun k hc hk => ?_⟩,
    fun h => ⟨occursAt_append before sep after, fun k hc hk => ?_⟩⟩
  · intro hocc
    exact h.2 k hc hk ((occursAt_append_left (by rw [List.length_append]; omega)).2 hocc)
  · rw [occursAt_append_left (by rw [List.length_append]; omega)]
    exact h.2 k hc hk

/-! ## Cutting -/

/-- A separator that stands at the beginning is cut there. -/
theorem cut?_of_after? (h : after? sep t = some after) : cut? sep t = some ([], after) := by
  cases t with
  | nil => rw [cut?, h]; rfl
  | cons a t => rw [cut?, h]

theorem cut?_cons_of_not_isPrefix {a : Char} (h : ¬ sep <+: a :: t) :
    cut? sep (a :: t) = (cut? sep t).map fun (before, rest) => (a :: before, rest) := by
  have : after? sep (a :: t) = none := by
    by_contra hne
    obtain ⟨rest, hr⟩ := Option.ne_none_iff_exists'.1 hne
    exact h ⟨rest, (after?_eq_some.1 hr).symm⟩
  rw [cut?, this]

/-- What stands before the cut holds no occurrence. -/
theorem not_occursAt_of_cut? (h : cut? sep t = some (before, after)) :
    ∀ k < before.length, ¬ OccursAt sep t k := by
  induction t generalizing before with
  | nil =>
    obtain rfl : before = [] := by
      have := congrArg List.length (cut?_eq_some h)
      simp only [List.length_append, List.length_nil] at this
      exact List.eq_nil_of_length_eq_zero (by omega)
    simp
  | cons a t ih =>
    by_cases hp : sep <+: a :: t
    · obtain ⟨rest, hr⟩ := hp
      rw [cut?_of_after? (after?_eq_some.2 hr.symm)] at h
      cases h
      simp
    · rw [cut?_cons_of_not_isPrefix hp] at h
      obtain ⟨⟨b, r⟩, hb, he⟩ := Option.map_eq_some_iff.1 h
      cases he
      intro k hk
      cases k with
      | zero => rwa [occursAt_zero]
      | succ k =>
        rw [occursAt_cons_succ]
        exact ih hb k (by simpa using hk)

/-- A text is cut at the first occurrence of the separator. -/
theorem cut?_eq_some_iff :
    cut? sep t = some (before, after) ↔
      t = before ++ sep ++ after ∧ FirstFrom sep t 0 before.length := by
  constructor
  · intro h
    have he := cut?_eq_some h
    refine ⟨he, firstFrom_iff.2 ⟨Nat.zero_le _, ?_, fun k _ hk => not_occursAt_of_cut? h k hk⟩⟩
    rw [he]
    exact occursAt_append before sep after
  · rintro ⟨he, hf⟩
    cases hc : cut? sep t with
    | none => exact absurd he (cut?_eq_none_iff.1 hc before after)
    | some p =>
      obtain ⟨b, a⟩ := p
      have hb := cut?_eq_some hc
      have hlen : b.length = before.length := by
        refine Nat.le_antisymm (Nat.le_of_not_lt fun hlt => ?_) (hf.2 ⟨Nat.zero_le _, ?_⟩)
        · exact not_occursAt_of_cut? hc _ hlt hf.1.2
        · rw [hb]
          exact occursAt_append b sep a
      rw [hb, List.append_assoc, List.append_assoc] at he
      obtain ⟨rfl, hr⟩ := List.append_inj he hlen
      rw [List.append_cancel_left hr]

theorem cut?_isSome_iff : (cut? sep t).isSome = true ↔ ∃ i, OccursAt sep t i := by
  constructor
  · intro h
    obtain ⟨⟨before, after⟩, hc⟩ := Option.isSome_iff_exists.1 h
    exact ⟨before.length, (cut?_eq_some_iff.1 hc).2.1.2⟩
  · rintro ⟨i, -, rest, hr⟩
    by_contra hn
    rw [Option.not_isSome_iff_eq_none, cut?_eq_none_iff] at hn
    refine hn (t.take i) rest ?_
    rw [List.append_assoc, hr, List.take_append_drop]

theorem occursIn_iff : occursIn sep t = true ↔ sep <:+: t := by
  constructor
  · intro h
    obtain ⟨⟨before, after⟩, hc⟩ := Option.isSome_iff_exists.1 h
    exact ⟨before, after, (cut?_eq_some hc).symm⟩
  · rintro ⟨before, after, rfl⟩
    exact cut?_isSome_iff.2 ⟨_, occursAt_append before sep after⟩

end NameTag.Text
