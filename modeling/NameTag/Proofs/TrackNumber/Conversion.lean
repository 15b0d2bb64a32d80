import NameTag.Render
import NameTag.Proofs.Text.CaseDigit
import NameTag.Proofs.Text.Integer
import NameTag.Proofs.Weed.Search

/-!
# What is converted of a track number

A track number has the form `0*([0-9]{1,3})`. Of a text of this form the group captures the digits
without leading zeros, or the last of all zeros (`captured?_eq`). These are at most three, and so
are those of a number that is rendered: whether a text is a track number and how it is rendered
depends on the conversion of no other text (`isTrackNumberBy_eq`, `renderTrackNumberBy?_eq`).
-/

namespace NameTag

namespace Text

open Weed

variable {c : Char} {t before : Text} {n fuel count : Nat} {last : Option Nat}
  {groups : List (Nat × Text)} {k : Continuation}

/-! ## The form of a track number -/

def digit : Expr :=
  .one {} (.set false [.range 48 57])

/-- One to three digits, as the first group. -/
def capturedDigits : Expr :=
  .group (some 1) (.repeated .greedy 1 (some 3) digit)

def numberForm : Expr :=
  .seq (.repeated .greedy 0 none (.literal {} '0')) capturedDigits

theorem read_numberForm : Expr.read "0*([0-9]{1,3})".toList = .ok numberForm :=
  Expr.read_of_toOption (by decide +kernel)

/-- What the group captures if the whole text matches. -/
def captured? (t : Text) : Option Text :=
  (numberForm.whole? t).bind (·.groups.lookup 1)

theorem run_digit (k : Continuation) : digit.run ⟨before, c :: t, n, groups⟩ k =
    if isAsciiDigit c then k ⟨c :: before, t, n + 1, groups⟩ else none := by
  have haccepts : (CharTest.set false [.range 48 57]).accepts {} c = isAsciiDigit c := by
    rw [Bool.eq_iff_iff, isAsciiDigit_iff]
    simp [CharTest.accepts, Mode.variants, SetItem.accepts]
  simp [digit, Spot.meets, Spot.forward, haccepts]

theorem run_digit_nil (k : Continuation) : digit.run ⟨before, [], n, groups⟩ k = none := by
  simp [digit, Spot.meets]

theorem run_zero (k : Continuation) : (Expr.literal {} '0').run ⟨before, c :: t, n, groups⟩ k =
    if c = '0' then k ⟨c :: before, t, n + 1, groups⟩ else none := by
  have haccepts : (CharTest.set false [.code 48]).accepts {} c = decide (c = '0') := by
    rw [Bool.eq_iff_iff, decide_eq_true_iff, ← Char.toNat_inj]
    simp [CharTest.accepts, Mode.variants, SetItem.accepts, eq_comm]
  simp [Expr.literal, Spot.meets, Spot.forward, haccepts]

theorem run_zero_nil (k : Continuation) :
    (Expr.literal {} '0').run ⟨before, [], n, groups⟩ k = none := by
  simp [Expr.literal, Spot.meets]

instance (t : Text) : Decidable t.Digits :=
  List.decidableBAll _ t

/-- A round must take the next digit, where only the end of the text is accepted. -/
theorem roundsDown_digit_cons (hk : ∀ s, s.rest ≠ [] → k s = none) (h₁ : 1 ≤ count)
    (hl : last ≠ some n) :
    roundsDown digit.run 1 (some 3) k (fuel + 1) count last ⟨before, c :: t, n, groups⟩ =
      if isAsciiDigit c = true ∧ count < 3 then
        roundsDown digit.run 1 (some 3) k fuel (count + 1) (some n) ⟨c :: before, t, n + 1, groups⟩
      else none := by
  have hrest : k ⟨before, c :: t, n, groups⟩ = none := hk _ (List.cons_ne_nil c t)
  by_cases hcount : count < 3
  · rw [roundsDown_of_le h₁ (by simpa using hcount) hl, hrest, Option.or_none, run_digit]
    simp only [hcount, and_true]
  · rw [roundsDown_of_most h₁ (Nat.le_of_not_lt hcount), hrest, if_neg fun h => hcount h.2]

/-- Rounds that must end with the text take what is left of it, if it is few enough digits. -/
theorem roundsDown_digit (hk : ∀ s, s.rest ≠ [] → k s = none) (hf : t.length < fuel)
    (hl : ∀ p ∈ last, p < n) (h₁ : 1 ≤ count) (h₃ : count ≤ 3) :
    roundsDown digit.run 1 (some 3) k fuel count last ⟨before, t, n, groups⟩ =
      if t.Digits ∧ count + t.length ≤ 3 then k ⟨t.reverse ++ before, [], n + t.length, groups⟩
      else none := by
  induction t generalizing before fuel n count last with
  | nil =>
    obtain ⟨fuel, rfl⟩ := Nat.exists_eq_add_of_lt hf
    have hleast : ¬ count < 1 := Nat.not_lt.2 h₁
    simp [roundsDown, hleast, run_digit_nil, h₃, Digits]
  | cons c t ih =>
    obtain ⟨fuel, rfl⟩ : ∃ m, fuel = m + 1 := Nat.exists_eq_succ_of_ne_zero (by omega)
    have hlast : last ≠ some n := fun he => lt_irrefl n (hl n he)
    rw [roundsDown_digit_cons hk h₁ hlast]
    rw [List.length_cons] at hf
    by_cases hc : isAsciiDigit c = true ∧ count < 3
    · rw [if_pos hc, ih (by omega) (by simp) (by omega) (by omega)]
      refine if_congr ?_ ?_ rfl
      · rw [digits_cons, and_iff_right hc.1, List.length_cons, Nat.add_right_comm, Nat.add_assoc]
      · rw [List.reverse_cons, List.append_assoc, List.singleton_append, List.length_cons,
          Nat.add_assoc, Nat.add_comm 1]
    · rw [if_neg hc, if_neg]
      rw [digits_cons, List.length_cons]
      rintro ⟨hd, hlen⟩
      exact hc ⟨hd.1, by omega⟩

theorem run_capturedDigits (before t : Text) (n : Nat) :
    (capturedDigits.run ⟨before, t, n, []⟩ atEnd).map (·.groups) =
      if t ≠ [] ∧ t.Digits ∧ t.length ≤ 3 then some [(1, t)] else none := by
  rw [capturedDigits, Expr.run_capture, Expr.run_greedy]
  cases t with
  | nil => simp [maxRounds, roundsDown, run_digit_nil]
  | cons c t =>
    have hrounds : maxRounds 1 ⟨before, c :: t, n, []⟩ = (t.length + 4) + 1 := by
      rw [maxRounds, List.length_cons]
      omega
    have hk : ∀ s : Spot, s.rest ≠ [] → atEnd (s.capture ⟨before, c :: t, n, []⟩ 1) = none :=
      fun s h => atEnd_of_ne_nil h
    -- the first round is the least number of them
    rw [hrounds, roundsDown, if_pos Nat.zero_lt_one, run_digit,
      roundsDown_digit hk (by omega) (by simp) le_rfl (by omega)]
    by_cases hc : isAsciiDigit c = true
    · by_cases ht : Digits t ∧ 1 + t.length ≤ 3
      · have hd : Digits (c :: t) ∧ (c :: t).length ≤ 3 :=
          ⟨digits_cons.2 ⟨hc, ht.1⟩, (Nat.add_comm t.length 1).trans_le ht.2⟩
        rw [if_pos hc, if_pos ht, if_pos ⟨List.cons_ne_nil c t, hd⟩]
        simp [atEnd, Spot.capture, List.take_of_length_le, Nat.add_assoc, Nat.add_comm 1]
      · rw [if_pos hc, if_neg ht, if_neg, Option.map_none]
        rintro ⟨-, hd, hlen⟩
        exact ht ⟨(digits_cons.1 hd).2, (Nat.add_comm 1 t.length).trans_le hlen⟩
    · rw [if_neg hc, if_neg fun h => hc (digits_cons.1 h.2.1).1, Option.map_none]

/-! ## Zeros in front -/

/-- The digits that are captured: those after the zeros, or the last of all zeros. -/
def significant (t : Text) : Text :=
  if (t.dropWhile (· == '0')).isEmpty then ['0'] else t.dropWhile (· == '0')

theorem significant_zero (t : Text) : significant ('0' :: t) = significant t := by
  rw [significant, significant, List.dropWhile_cons_of_pos rfl]

theorem significant_of_ne_zero (h : c ≠ '0') : significant (c :: t) = c :: t := by
  have hdrop : (c :: t).dropWhile (· == '0') = c :: t :=
    List.dropWhile_cons_of_neg (by simpa using h)
  rw [significant, hdrop]
  rfl

theorem roundsDown_zero_cons (hl : last ≠ some n) :
    roundsDown (Expr.literal {} '0').run 0 none k (fuel + 1) count last
        ⟨before, c :: t, n, groups⟩ =
      (if c = '0' then
        roundsDown (Expr.literal {} '0').run 0 none k fuel (count + 1) (some n)
          ⟨c :: before, t, n + 1, groups⟩
      else none).or (k ⟨before, c :: t, n, groups⟩) := by
  rw [roundsDown_of_le (Nat.zero_le count) (by simp) hl, run_zero]

/-- Zeros are taken first and left to the group where nothing else is left for it. -/
theorem roundsDown_zero (hf : t.length < fuel) (hl : ∀ p ∈ last, p < n) :
    (roundsDown (Expr.literal {} '0').run 0 none (capturedDigits.run · atEnd) fuel count last
        ⟨before, t, n, []⟩).map (·.groups) =
      if t ≠ [] ∧ t.Digits ∧ (t.dropWhile (· == '0')).length ≤ 3 then some [(1, significant t)]
      else none := by
  induction t generalizing before fuel n count last with
  | nil =>
    obtain ⟨fuel, rfl⟩ := Nat.exists_eq_add_of_lt hf
    have hlast : last ≠ some n := fun he => lt_irrefl n (hl n he)
    rw [roundsDown_of_le (Nat.zero_le count) (by simp) hlast, run_zero_nil, Option.none_or,
      run_capturedDigits, if_neg fun h => h.1 rfl, if_neg fun h => h.1 rfl]
  | cons c t ih =>
    obtain ⟨fuel, rfl⟩ : ∃ m, fuel = m + 1 := Nat.exists_eq_succ_of_ne_zero (by omega)
    have hlast : last ≠ some n := fun he => lt_irrefl n (hl n he)
    rw [List.length_cons] at hf
    rw [roundsDown_zero_cons hlast, Option.map_or, run_capturedDigits]
    by_cases hc : c = '0'
    · subst hc
      rw [if_pos rfl, ih (by omega) (by simp), List.dropWhile_cons_of_pos rfl, significant_zero]
      cases t with
      | nil => rfl
      | cons d t =>
        by_cases ht : Digits (d :: t) ∧ ((d :: t).dropWhile (· == '0')).length ≤ 3
        · have hd : Digits ('0' :: d :: t) := digits_cons.2 ⟨by decide, ht.1⟩
          rw [if_pos ⟨List.cons_ne_nil d t, ht⟩, Option.some_or,
            if_pos ⟨List.cons_ne_nil _ _, hd, ht.2⟩]
        · rw [if_neg fun h => ht h.2, Option.none_or, if_neg, if_neg]
          · rintro ⟨-, hd, hlen⟩
            exact ht ⟨(digits_cons.1 hd).2, hlen⟩
          · rintro ⟨-, hd, hlen⟩
            have hdrop := (List.dropWhile_suffix (· == '0') (l := d :: t)).length_le
            rw [List.length_cons] at hlen
            exact ht ⟨(digits_cons.1 hd).2, by omega⟩
    · have hdrop : (c :: t).dropWhile (· == '0') = c :: t :=
        List.dropWhile_cons_of_neg (by simpa using hc)
      rw [if_neg hc, Option.map_none, Option.none_or, hdrop, significant_of_ne_zero hc]

theorem captured?_eq (t : Text) :
    captured? t =
      if t ≠ [] ∧ t.Digits ∧ (t.dropWhile (· == '0')).length ≤ 3 then some (significant t)
      else none := by
  have hrun : (numberForm.whole? t).map (·.groups) =
      if t ≠ [] ∧ t.Digits ∧ (t.dropWhile (· == '0')).length ≤ 3 then some [(1, significant t)]
      else none := by
    have hfuel : t.length < maxRounds 0 (.start t) := by
      show t.length < 0 + t.length + 3
      omega
    exact roundsDown_zero hfuel (by simp)
  have hcaptured : captured? t = ((numberForm.whole? t).map (·.groups)).bind (·.lookup 1) := by
    rw [captured?, Option.bind_map]
    rfl
  rw [hcaptured, hrun]
  split <;> rfl

theorem significant_ne_nil (t : Text) : significant t ≠ [] := by
  rw [significant]
  split
  · exact List.cons_ne_nil _ _
  · next h => exact fun he => h (List.isEmpty_iff.2 he)

theorem forall_mem_significant {p : Char → Bool} (hp : p '0' = true) (h : ∀ c ∈ t, p c = true) :
    ∀ c ∈ significant t, p c = true := by
  rw [significant]
  split
  · simpa using hp
  · exact fun c hc => h c (mem_of_mem_dropWhile hc)

theorem length_significant_le (h : (t.dropWhile (· == '0')).length ≤ 3) :
    (significant t).length ≤ 3 := by
  rw [significant]
  split
  · decide
  · exact h

theorem decimalValue_significant (t : Text) : decimalValue (significant t) = decimalValue t := by
  rw [← decimalValue_dropWhile_zero t, significant]
  split
  · next h =>
    rw [List.isEmpty_iff.1 h]
    rfl
  · rfl

end Text

/-- A track number is what the captured digits denote. -/
theorem trackNumber?_eq (t : Text) : trackNumber? t = t.captured?.map Text.decimalValue := by
  rw [trackNumber?, Text.captured?_eq]
  by_cases hne : t = []
  · simp [hne]
  by_cases hd : t.Digits
  · have hall : t.all isAsciiDigit = true := List.all_eq_true.2 hd
    by_cases hlen : (t.dropWhile (· == '0')).length ≤ 3
    · simp [hne, hd, hall, hlen, Text.decimalValue_significant, Text.decimalValue_dropWhile_zero]
    · simp [hne, hall, hlen]
  · have hall : t.all isAsciiDigit = false := Bool.eq_false_iff.2 fun h => hd (List.all_eq_true.1 h)
    simp [hd, hall]

/-! ## Conversions -/

/-- What is tried to make a number of a text. -/
abbrev NumberReader := Text → Except IntegerError Int

/-- A conversion that is right for one to three digits of any script. -/
def NumberReader.RightOnThree (convert : NumberReader) : Prop :=
  ∀ ds : Text, ds ≠ [] → (∀ c ∈ ds, isDecimalDigit c = true) → ds.length ≤ 3 →
    convert ds = .ok ds.decimalValue

/-- Whether a text is a track number, by converting what is captured. -/
def isTrackNumberBy (convert : NumberReader) (t : Text) : Except IntegerError Bool :=
  match t.captured? with
  | some ds => do
    let n ← convert ds
    pure (decide (0 < n) && decide (n < 256))
  | none => pure false

/-- A track number as it is rendered, by converting the digits after the zeros. -/
def renderTrackNumberBy? (convert : NumberReader) (t : Text) : Except IntegerError (Option Text) :=
  if t.isEmpty || !t.all isDecimalDigit || 3 < (t.dropWhile (· == '0')).length then pure none
  else do
    let n ← convert t.significant
    pure (some (Text.ofNatPadded 2 n.toNat))

variable {convert : NumberReader}

theorem isTrackNumberBy_eq (h : convert.RightOnThree) (t : Text) :
    isTrackNumberBy convert t = .ok (isTrackNumber t) := by
  rw [isTrackNumberBy, isTrackNumber, trackNumber?_eq, Text.captured?_eq]
  split_ifs with hform
  · obtain ⟨hne, hd, hlen⟩ := hform
    have hconvert := h t.significant t.significant_ne_nil
      (Text.forall_mem_significant (by decide) fun c hc => isDecimalDigit_of_isAsciiDigit (hd c hc))
      (Text.length_significant_le hlen)
    have hcast (n : Nat) : (decide (0 < (n : Int)) && decide ((n : Int) < 256)) =
        (decide (0 < n) && decide (n < 256)) :=
      congrArg₂ (· && ·) (decide_eq_decide.2 Int.natCast_pos) (decide_eq_decide.2 (by omega))
    simp only [hconvert, Option.map_some]
    exact congrArg Except.ok (hcast _)
  · rfl

theorem renderTrackNumberBy?_eq (h : convert.RightOnThree) (t : Text) :
    renderTrackNumberBy? convert t = .ok (renderTrackNumber? t) := by
  rw [renderTrackNumberBy?, renderTrackNumber?]
  by_cases hno : (t.isEmpty || !t.all isDecimalDigit ||
      decide (3 < (t.dropWhile (· == '0')).length)) = true
  · rw [if_pos hno]
    simp only [hno, if_true]
    rfl
  · rw [if_neg hno]
    simp only [hno, if_false, Bool.false_eq_true]
    simp only [Bool.or_eq_true, List.isEmpty_iff, Bool.not_eq_true', decide_eq_true_eq, not_or,
      Bool.not_eq_false, List.all_eq_true, Nat.not_lt] at hno
    have hconvert := h t.significant t.significant_ne_nil
      (Text.forall_mem_significant (by decide) hno.1.2) (Text.length_significant_le hno.2)
    rw [hconvert, Text.decimalValue_significant, Text.decimalValue_dropWhile_zero]
    rfl

/-- Reading an integer is such a conversion. -/
theorem rightOnThree_readInteger : NumberReader.RightOnThree Text.readInteger := by
  intro ds hne hd hlen
  exact Text.readInteger_of_isDecimalDigit hd hne (hlen.trans (by decide))

end NameTag
