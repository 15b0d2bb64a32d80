import NameTag.Proofs.Store
import Mathlib.Data.ENat.Lattice

/-!
# Truncating twice

How many characters a limit allows is its `allowance`. Without a marker, cutting to one limit and
then to another is cutting to the smaller of the two; with a marker this holds where the second
limit is no larger and the marker fits both or neither (`trim_composes`). What trimming without a
marker cuts off a stripped text ends at the limit, with the blanks before it.
-/

namespace NameTag

/-- Trimming a text as a value. -/
theorem Value.trim_text (t : Text) (limit : Option Int) (marker : Option Text) :
    (Value.text t).trim (.ofOption .int limit) (.ofMarker marker) =
      .ok (.text (Text.trim t limit marker)) := by
  cases limit with
  | none => rfl
  | some n =>
    have hcut : (0 ≤ (n : Rat) ∧ (n : Rat) < ((Text.strip t).length : Rat)) ↔
        (0 ≤ n ∧ n < (Text.strip t).length) := by
      norm_cast
    simp only [Value.trim, Value.ofOption, Option.map_some, Option.getD_some, Value.number?,
      Value.integer?, hcut, Text.trim]
    split
    · cases marker <;> rfl
    · rfl

namespace Text

variable {a b c : Option Int} {marker : Option Text}

/-! ## Limits -/

/-- A limit that counts: none of those that are negative. -/
def bound : Option Int → Option Nat
  | some (.ofNat n) => some n
  | _ => none

/-- The number of characters that a limit allows; without a limit or with a negative one, any
number. -/
def allowance (limit : Option Int) : ℕ∞ :=
  (bound limit).elim ⊤ Nat.cast

theorem trim_bound (t : Text) (limit : Option Int) (marker : Option Text) :
    trim t limit marker = trim t ((bound limit).map Nat.cast) marker := by
  rcases limit with _ | n | n
  · rfl
  · rfl
  · have hnot : ¬ (0 ≤ Int.negSucc n ∧ Int.negSucc n < (strip t).length) := by omega
    rw [trim, if_neg hnot]
    rfl

theorem allowance_eq_iff : allowance a = allowance b ↔ bound a = bound b := by
  rw [allowance, allowance]
  constructor
  · intro h
    cases ha : bound a <;> cases hb : bound b <;> simp_all
  · intro h
    rw [h]

/-- Only what a limit allows matters. -/
theorem trim_of_allowance_eq (t : Text) (h : allowance a = allowance b) :
    trim t a marker = trim t b marker := by
  rw [trim_bound t a, trim_bound t b, allowance_eq_iff.1 h]

theorem length_trim_le_allowance (t : Text) (limit : Option Int) (marker : Option Text) :
    ((trim t limit marker).length : ℕ∞) ≤ allowance limit := by
  rw [trim_bound, allowance]
  cases bound limit with
  | none => exact le_top
  | some n => exact Nat.cast_le.2 (length_trim_le_limit t n marker)

/-! ## Cutting to the smaller limit -/

/-- A second limit that allows as many characters changes nothing. -/
theorem trim_trim_of_allowance_le (hm : ProperMarker marker) (t : Text)
    (h : allowance a ≤ allowance b) : trim (trim t a marker) b marker = trim t a marker := by
  have hlen := (length_trim_le_allowance t a marker).trans h
  rw [trim_bound t a] at hlen ⊢
  rw [trim_bound _ b]
  refine trim_eq_self marker (strip_trim hm t _) fun n hn => ?_
  rw [allowance, hn] at hlen
  exact Nat.cast_le.1 hlen

/-- A second limit that allows no more characters is the one that counts, if the marker fits both
limits or neither. -/
theorem trim_trim_of_le_allowance (hm : ProperMarker marker) (t : Text)
    (hf : ∀ k ∈ marker, (k.length : ℕ∞) < allowance b ∨ allowance a ≤ k.length)
    (h : allowance b ≤ allowance a) : trim (trim t a marker) b marker = trim t b marker := by
  rw [allowance, allowance] at h
  rw [trim_bound t a, trim_bound _ b, trim_bound t b]
  cases ha : bound a with
  | none => exact trim_strip t _ marker
  | some m =>
    cases hb : bound b with
    | none =>
      rw [ha, hb] at h
      exact absurd h (by simp)
    | some n =>
      rw [ha, hb] at h
      refine trim_trim_of_le t hm (fun k hk => ?_) (Nat.cast_le.1 h)
      have hfits := hf k hk
      rw [allowance, allowance, ha, hb] at hfits
      exact hfits.imp Nat.cast_lt.1 Nat.cast_le.1

/-- Without a marker the smaller limit counts, in whichever order the limits come. -/
theorem trim_trim_of_allowance_eq_min (t : Text)
    (h : allowance c = min (allowance a) (allowance b)) :
    trim (trim t a none) b none = trim t c none := by
  have hnone : ProperMarker none := fun m hm => absurd hm (Option.not_mem_none m)
  rcases le_total (allowance a) (allowance b) with hab | hba
  · rw [trim_trim_of_allowance_le hnone t hab]
    exact trim_of_allowance_eq t (by rw [h, min_eq_left hab])
  · rw [trim_trim_of_le_allowance hnone t (by simp) hba]
    exact trim_of_allowance_eq t (by rw [h, min_eq_right hba])

/-! ## What is cut off -/

/-- Without a marker, only blanks stand between a trimmed text and the cut. -/
theorem exists_trim_append (t : Text) (limit : Option Int) :
    ∃ blanks rest, strip t = trim t limit none ++ blanks ++ rest ∧
      (∀ d ∈ blanks, isBlank d = true) ∧
      ((trim t limit none ++ blanks).length : ℕ∞) = min (allowance limit) (strip t).length := by
  rw [trim_bound, allowance]
  cases bound limit with
  | none => exact ⟨[], [], by simp [trim], by simp, by simp [trim]⟩
  | some n =>
    rw [Option.map_some, trim_some]
    split
    · next hn =>
      obtain ⟨blanks, hb, hblank⟩ := exists_stripRight_append ((strip t).take n)
      refine ⟨blanks, (strip t).drop n, ?_, hblank, ?_⟩
      · rw [shorten, ← hb, List.take_append_drop]
      · rw [shorten, ← hb, List.length_take, Option.elim_some, Nat.mono_cast.map_min]
    · next hn =>
      refine ⟨[], [], by simp, by simp, ?_⟩
      rw [List.append_nil, Option.elim_some, ← Nat.mono_cast.map_min,
        min_eq_right (Nat.le_of_not_lt hn)]

/-! ## Both limits -/

/-- Trimming twice without a marker is trimming to the smaller limit. With a marker that does not
end with a blank, a second trimming to the same limit changes nothing, and one to a smaller limit
makes the first superfluous if the marker fits both limits or neither. Trimming keeps to its limit
in any case, and without a marker it leaves what stands before the cut, except for the blanks
there. -/
theorem trim_composes (t : Text) :
    (∀ limit marker, (Value.text t).trim (.ofOption .int limit) (.ofMarker marker) =
      .ok (.text (trim t limit marker))) ∧
    (∀ a b c, allowance c = min (allowance a) (allowance b) →
      trim (trim t a none) b none = trim t c none) ∧
    (∀ k : Text, k ≠ [] → k.RightStripped →
      (∀ n, trim (trim t n (some k)) n (some k) = trim t n (some k)) ∧
      ∀ a b, allowance b ≤ allowance a →
        ((k.length : ℕ∞) < allowance b ∨ allowance a ≤ k.length) →
        trim (trim t a (some k)) b (some k) = trim t b (some k)) ∧
    (∀ limit marker, ((trim t limit marker).length : ℕ∞) ≤ allowance limit) ∧
    ∀ limit, ∃ blanks rest, strip t = trim t limit none ++ blanks ++ rest ∧
      (∀ d ∈ blanks, isBlank d = true) ∧
      ((trim t limit none ++ blanks).length : ℕ∞) = min (allowance limit) (strip t).length := by
  refine ⟨Value.trim_text t, fun a b c => trim_trim_of_allowance_eq_min t, fun k hne hright => ?_,
    length_trim_le_allowance t, exists_trim_append t⟩
  have hk : ProperMarker (some k) := fun m hm => Option.mem_some.1 hm ▸ ⟨hne, hright⟩
  refine ⟨fun n => trim_trim_of_allowance_le hk t le_rfl, fun a b hba hf => ?_⟩
  exact trim_trim_of_le_allowance hk t (fun m hm => Option.mem_some.1 hm ▸ hf) hba

/-- A text that is cut between two words, with the blank before the cut and with a marker. -/
theorem trim_composes_words :
    let t := "  Fear of the Dark ".toList
    let k := "..".toList
    trim (trim t (some 12) none) (some 5) none = trim t (some 5) none ∧
      trim (trim t (some 12) (some k)) (some 7) (some k) = "Fear ..".toList := by
  intro t k
  obtain ⟨-, hmin, hmarker, -⟩ := trim_composes t
  have hle : ∀ {m n : Nat}, m ≤ n → allowance (some (m : Int)) ≤ allowance (some (n : Int)) :=
    fun h => Nat.cast_le.2 h
  have hsmaller : allowance (some 5) = min (allowance (some 12)) (allowance (some 5)) :=
    (min_eq_right (hle (show 5 ≤ 12 by decide))).symm
  have hfits : (k.length : ℕ∞) < allowance (some 7) := Nat.cast_lt.2 (by decide)
  have hright : RightStripped k := stripRight_eq_self_iff.1 (by decide)
  refine ⟨hmin _ _ _ hsmaller, ?_⟩
  rw [(hmarker k (by decide) hright).2 (some 12) (some 7) (hle (by decide)) (.inl hfits)]
  decide

end Text

end NameTag
