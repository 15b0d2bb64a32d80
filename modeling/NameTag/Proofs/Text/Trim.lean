import NameTag.Text.Trim
import NameTag.Proofs.Text.Strip

/-!
# What trimming leaves

A trimmed text keeps to its limit, is never longer than the text it comes from, and does not begin
with a blank; with a `ProperMarker` it does not end with one either. `trim_trim_of_le`:
cutting to a limit and then to a smaller one is cutting to the smaller one, unless the marker fits
the first limit only.
-/

namespace NameTag.Text

/-- A marker that may stand at the end of a stripped text: none, or one that ends with no blank. -/
def ProperMarker (marker : Option Text) : Prop :=
  ∀ m ∈ marker, m ≠ [] ∧ m.RightStripped

/-- The marker replaces the end of a text that is cut to either limit, or to neither. -/
def FitsAlike (marker : Option Text) (small large : Nat) : Prop :=
  ∀ m ∈ marker, m.length < small ∨ large ≤ m.length

theorem trim_some (t : Text) (n : Nat) (marker : Option Text) :
    trim t (some n) marker =
      if n < (strip t).length then shorten marker n (strip t) else strip t := by
  have hn : (0 ≤ (n : Int) ∧ (n : Int) < ((strip t).length : Int)) ↔ n < (strip t).length := by
    omega
  simp only [trim, hn, Int.toNat_natCast]

/-! ## Cut texts -/

theorem shorten_of_lt {m : Text} {n : Nat} (t : Text) (h : m.length < n) :
    shorten (some m) n t = t.take (n - m.length) ++ m := if_pos h

theorem shorten_of_le {m : Text} {n : Nat} (t : Text) (h : n ≤ m.length) :
    shorten (some m) n t = stripRight (t.take n) := if_neg (by omega)

/-- A cut text is its beginning with the marker after it, or its beginning without blanks at the
end. -/
theorem shorten_cases (marker : Option Text) (n : Nat) (t : Text) :
    (∃ m ∈ marker, m.length < n ∧ shorten marker n t = t.take (n - m.length) ++ m) ∨
      shorten marker n t = stripRight (t.take n) := by
  cases marker with
  | none => exact .inr rfl
  | some m =>
    rcases Nat.lt_or_ge m.length n with h | h
    · exact .inl ⟨m, rfl, h, shorten_of_lt t h⟩
    · exact .inr (shorten_of_le t h)

theorem length_shorten_le (marker : Option Text) (n : Nat) (t : Text) :
    (shorten marker n t).length ≤ n := by
  rcases shorten_cases marker n t with ⟨m, -, hm, he⟩ | he
  · rw [he, List.length_append, List.length_take]
    omega
  · rw [he]
    exact (stripRight_isPrefix _).length_le.trans (List.length_take_le n t)

theorem leftStripped_shorten {marker : Option Text} {n : Nat} {t : Text} (ht : t.LeftStripped)
    (hn : n < t.length) : (shorten marker n t).LeftStripped := by
  rcases shorten_cases marker n t with ⟨m, -, hm, he⟩ | he
  · rw [he]
    refine (ht.of_isPrefix (List.take_prefix _ _)).append fun h => ?_
    have := congrArg List.length h
    simp only [List.length_take, List.length_nil] at this
    omega
  · rw [he]
    exact ht.of_isPrefix ((stripRight_isPrefix _).trans (List.take_prefix _ _))

theorem rightStripped_shorten {marker : Option Text} (hm : ProperMarker marker) (n : Nat)
    (t : Text) : (shorten marker n t).RightStripped := by
  rcases shorten_cases marker n t with ⟨m, hmem, -, he⟩ | he
  · rw [he]
    exact (hm m hmem).2.append (hm m hmem).1
  · rw [he]
    exact rightStripped_stripRight _

/-- Cutting a text leaves its first character where it is. -/
theorem head?_shorten {marker : Option Text} {n : Nat} {t : Text} (ht : t.LeftStripped)
    (hn : 0 < n) (hlt : n < t.length) : (shorten marker n t).head? = t.head? := by
  cases t with
  | nil => cases hlt
  | cons c t =>
    rcases shorten_cases marker n (c :: t) with ⟨m, -, hm, he⟩ | he
    · obtain ⟨k, hk⟩ : ∃ k, n - m.length = k + 1 := ⟨n - m.length - 1, by omega⟩
      rw [he, hk, List.take_succ_cons]
      rfl
    · obtain ⟨k, rfl⟩ : ∃ k, n = k + 1 := ⟨n - 1, by omega⟩
      rw [he, List.take_succ_cons, head?_stripRight (leftStripped_cons.1 ht)]
      rfl

/-! ## Trimmed texts -/

theorem length_trim_le_limit (t : Text) (n : Nat) (marker : Option Text) :
    (trim t (some n) marker).length ≤ n := by
  rw [trim_some]
  split
  · exact length_shorten_le marker n _
  · omega

/-- Trimming never makes a text longer, whatever the marker. -/
theorem length_trim_le (t : Text) (limit : Option Nat) (marker : Option Text) :
    (trim t (limit.map Nat.cast) marker).length ≤ t.length := by
  have hs := length_strip_le t
  cases limit with
  | none => exact hs
  | some n =>
    rw [Option.map_some, trim_some]
    split
    · have := length_shorten_le marker n (strip t)
      omega
    · exact hs

theorem leftStripped_trim (t : Text) (limit : Option Nat) (marker : Option Text) :
    (trim t (limit.map Nat.cast) marker).LeftStripped := by
  cases limit with
  | none => exact leftStripped_strip t
  | some n =>
    rw [Option.map_some, trim_some]
    split
    · next h => exact leftStripped_shorten (leftStripped_strip t) h
    · exact leftStripped_strip t

/-- Trimming leaves the first character of a stripped text where it is. -/
theorem head?_trim (t : Text) {limit : Option Nat} (hn : ∀ n ∈ limit, 0 < n)
    (marker : Option Text) :
    (trim t (limit.map Nat.cast) marker).head? = (strip t).head? := by
  cases limit with
  | none => rfl
  | some n =>
    rw [Option.map_some, trim_some]
    split
    · next h => exact head?_shorten (leftStripped_strip t) (hn n rfl) h
    · rfl

theorem rightStripped_trim {marker : Option Text} (hm : ProperMarker marker) (t : Text)
    (limit : Option Nat) : (trim t (limit.map Nat.cast) marker).RightStripped := by
  cases limit with
  | none => exact rightStripped_strip t
  | some n =>
    rw [Option.map_some, trim_some]
    split
    · exact rightStripped_shorten hm n _
    · exact rightStripped_strip t

/-- A stripped text within the limit stays as it is. -/
theorem trim_eq_self {t : Text} {limit : Option Nat} (marker : Option Text) (ht : strip t = t)
    (hl : ∀ n ∈ limit, t.length ≤ n) : trim t (limit.map Nat.cast) marker = t := by
  cases limit with
  | none => exact ht
  | some n =>
    rw [Option.map_some, trim_some, ht, if_neg (by have := hl n rfl; omega)]

/-- Trimming changes a stripped text exactly if it does not fit. -/
theorem trim_eq_self_iff {t : Text} {limit : Option Nat} {marker : Option Text}
    (ht : strip t = t) :
    trim t (limit.map Nat.cast) marker = t ↔ ∀ n ∈ limit, t.length ≤ n := by
  refine ⟨?_, trim_eq_self marker ht⟩
  rintro h n rfl
  rw [← h]
  exact length_trim_le_limit t n marker

theorem trim_strip (t : Text) (limit : Option Int) (marker : Option Text) :
    trim (strip t) limit marker = trim t limit marker := by
  simp only [trim, strip_strip]

theorem strip_trim {marker : Option Text} (hm : ProperMarker marker) (t : Text)
    (limit : Option Nat) :
    strip (trim t (limit.map Nat.cast) marker) = trim t (limit.map Nat.cast) marker :=
  strip_eq_self_iff.2 ⟨leftStripped_trim t limit marker, rightStripped_trim hm t limit⟩

/-- A text that was cut to a limit is not cut again. -/
theorem trim_trim {marker : Option Text} (hm : ProperMarker marker) (t : Text)
    (limit : Option Nat) :
    trim (trim t (limit.map Nat.cast) marker) (limit.map Nat.cast) marker =
      trim t (limit.map Nat.cast) marker := by
  refine trim_eq_self marker (strip_trim hm t limit) ?_
  rintro n rfl
  exact length_trim_le_limit t n marker

/-! ## Cutting twice -/

/-- The two limits of a comment are 28 and 30. -/
theorem fitsAlike_comment {marker : Option Text}
    (h : ∀ m ∈ marker, m.length ≠ 28 ∧ m.length ≠ 29) : FitsAlike marker 28 30 := by
  intro m hm
  have := h m hm
  omega

/-- Cutting the beginning of a text, without the blanks at its end, is cutting the text. -/
theorem stripRight_take_stripRight_take {a b : Nat} (t : Text) (h : b ≤ a) :
    stripRight ((stripRight (t.take a)).take b) = stripRight (t.take b) := by
  obtain ⟨blanks, he, hb⟩ := exists_stripRight_append (t.take a)
  have ht : t.take b = (stripRight (t.take a)).take b ++
      blanks.take (b - (stripRight (t.take a)).length) := by
    rw [← List.take_append, ← he, List.take_take, Nat.min_eq_left h]
  rw [ht]
  rcases Nat.lt_or_ge (stripRight (t.take a)).length b with hlt | hge
  · rw [List.take_of_length_le hlt.le, stripRight_append_blanks (rightStripped_stripRight _)
      fun c hc => hb c (List.mem_of_mem_take hc)]
    exact stripRight_eq_self_iff.2 (rightStripped_stripRight _)
  · rw [Nat.sub_eq_zero_of_le hge, List.take_zero, List.append_nil]

/-- The same without a marker, or with one that is too long for either limit. -/
theorem trim_stripRight_take {s : Text} (hs : strip s = s) {marker : Option Text} {a b : Nat}
    (hba : b ≤ a) (hm : ∀ m ∈ marker, a ≤ m.length) :
    trim (stripRight (s.take a)) (some b) marker = stripRight (s.take b) := by
  have hl : (stripRight (s.take a)).LeftStripped :=
    (strip_eq_self_iff.1 hs).1.of_isPrefix ((stripRight_isPrefix _).trans (List.take_prefix _ _))
  have hr : strip (stripRight (s.take a)) = stripRight (s.take a) :=
    strip_eq_self_iff.2 ⟨hl, rightStripped_stripRight _⟩
  rw [trim_some, hr, ← stripRight_take_stripRight_take s hba]
  split
  · cases marker with
    | none => rfl
    | some m => exact shorten_of_le _ (hba.trans (hm m rfl))
  · next h =>
    rw [List.take_of_length_le (Nat.le_of_not_lt h)]
    exact (stripRight_eq_self_iff.2 (rightStripped_stripRight _)).symm

/-- The same with a marker that fits both limits: it stays, and the text before it is cut. -/
theorem trim_take_append {s m : Text} (hs : strip s = s) (hm : ProperMarker (some m)) {a b : Nat}
    (hba : b ≤ a) (ha : a < s.length) (hmb : m.length < b) :
    trim (s.take (a - m.length) ++ m) (some b) (some m) = s.take (b - m.length) ++ m := by
  have hlen : (s.take (a - m.length) ++ m).length = a := by
    rw [List.length_append, List.length_take]
    omega
  have hl : LeftStripped (s.take (a - m.length) ++ m) := by
    rw [← shorten_of_lt s (show m.length < a by omega)]
    exact leftStripped_shorten (strip_eq_self_iff.1 hs).1 ha
  have hr := (hm m rfl).2.append (s := s.take (a - m.length)) (hm m rfl).1
  rw [trim_some, strip_eq_self_iff.2 ⟨hl, hr⟩, hlen]
  split
  · rw [shorten_of_lt _ hmb, List.take_append_of_le_length (by rw [List.length_take]; omega),
      List.take_take, Nat.min_eq_left (by omega)]
  · next h => rw [show a = b by omega]

theorem trim_trim_of_le {marker : Option Text} {a b : Nat} (t : Text) (hm : ProperMarker marker)
    (hf : FitsAlike marker b a) (hba : b ≤ a) :
    trim (trim t (some a) marker) (some b) marker = trim t (some b) marker := by
  have hs := strip_strip t
  rcases Nat.lt_or_ge a (strip t).length with ha | ha
  · rw [trim_some t a, if_pos ha, trim_some t b, if_pos (by omega)]
    cases marker with
    | none => exact trim_stripRight_take hs hba (by simp)
    | some m =>
      rcases hf m rfl with h | h
      · rw [shorten_of_lt _ (show m.length < a by omega), shorten_of_lt _ h]
        exact trim_take_append hs hm hba ha h
      · rw [shorten_of_le _ h, shorten_of_le _ (hba.trans h)]
        exact trim_stripRight_take hs hba (by simpa using h)
  · rw [trim_some t a, if_neg (by omega), trim_strip]

end NameTag.Text
