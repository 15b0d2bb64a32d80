import NameTag.Proofs.Text.Capitals
import NameTag.Proofs.Weed.Search

/-!
# Word starts

Capitalising words is rewriting the matches of the expression `(^|[\s_-])([^\W\d_])`, a word start
with what stands before it (`rewrite_wordStart`). A match takes the delimiter together with the
letter behind it. The scan goes on behind that letter, and since a letter is no delimiter, no word
starts at the spot where the scan goes on: this is what carries the induction. Hence a character is
capitalised by its position alone (`capitalizeWords_eq_flatMap`).
-/

namespace NameTag

namespace Text

open Weed

variable {c d : Char} {t : Text}

/-! ## The expression of a word start -/

/-- The set `[\s_-]`. -/
def delimiter : Expr :=
  .one {} (.set false [.ofClass .blank false, .code 95, .code 45])

/-- The set `[^\W\d_]`. -/
def letter : Expr :=
  .one {} (.set true [.ofClass .word true, .ofClass .digit false, .code 95])

/-- The expression for the start of a word, with what stands before it. -/
def wordStart : Expr :=
  .seq (.group (some 1) (.alt (.anchor {} .lineStart) delimiter)) (.group (some 2) letter)

theorem read_wordStart : Expr.read "(^|[\\s_-])([^\\W\\d_])".toList = .ok wordStart :=
  Expr.read_of_toOption (by decide +kernel)

/-- The first group, and the second in upper case. -/
def capitalized (groups : List (Nat × Text)) : Text :=
  (groups.lookup 1).getD [] ++ upper ((groups.lookup 2).getD [])

theorem capitalized_pair (t : Text) (c : Char) :
    capitalized [(2, [c]), (1, t)] = t ++ upperChar c := by
  simp [capitalized, upper, List.lookup_cons]

theorem contains_toNat (c d : Char) : [c.toNat].contains d.toNat = (c == d) := by
  by_cases h : c = d
  · rw [h]
    simp
  · have hne : d.toNat ≠ c.toNat := fun he => h (Char.toNat_inj.1 he.symm)
    simp [h, hne]

variable {before : Text} {n : Nat} {groups : List (Nat × Text)} (k : Continuation)

theorem run_delimiter : delimiter.run ⟨before, c :: t, n, groups⟩ k =
    if endsWord c then k ⟨c :: before, t, n + 1, groups⟩ else none := by
  have hscore : [c.toNat].contains 95 = (c == '_') := contains_toNat c '_'
  have hdash : [c.toNat].contains 45 = (c == '-') := contains_toNat c '-'
  have haccepts : (CharTest.set false [.ofClass .blank false, .code 95, .code 45]).accepts {} c =
      endsWord c := by
    simp only [CharTest.accepts, Mode.variants, SetItem.accepts, CharClass.has, List.any_cons,
      List.any_nil, Bool.not_false, if_true, Bool.false_eq_true, if_false, hscore, hdash, endsWord]
    simp [Bool.or_assoc]
  simp [delimiter, Spot.meets, Spot.forward, haccepts]

theorem run_letter : letter.run ⟨before, c :: t, n, groups⟩ k =
    if takesCapital c then k ⟨c :: before, t, n + 1, groups⟩ else none := by
  have hscore : [c.toNat].contains 95 = (c == '_') := contains_toNat c '_'
  have haccepts : (CharTest.set true
      [.ofClass .word true, .ofClass .digit false, .code 95]).accepts {} c = takesCapital c := by
    simp only [CharTest.accepts, Mode.variants, SetItem.accepts, CharClass.has, List.any_cons,
      List.any_nil, Bool.not_false, if_true, Bool.false_eq_true, if_false, hscore, takesCapital]
    simp [Bool.and_assoc, bne]
  simp [letter, Spot.meets, Spot.forward, haccepts]

theorem run_letter_nil : letter.run ⟨before, [], n, groups⟩ k = none := by
  simp [letter, Spot.meets]

/-- What takes a capital ends no word. -/
theorem endsWord_of_takesCapital (h : takesCapital c = true) : endsWord c = false := by
  have hblank : isBlank c = false := by
    rw [Bool.eq_false_iff]
    intro hb
    rw [takesCapital_of_blank hb] at h
    cases h
  have hne : ∀ d, takesCapital d = false → c ≠ d := by
    rintro d hd rfl
    rw [hd] at h
    cases h
  simp [endsWord, hblank, hne '_' (by decide), hne '-' (by decide +kernel)]

/-- At the beginning of the text the expression finds a character that takes a capital. -/
theorem found_capital (h : takesCapital c = true) (n : Nat) :
    wordStart.found? ⟨[], c :: t, n, []⟩ false = some ⟨[c], t, n + 1, [(2, [c]), (1, [])]⟩ := by
  simp [Expr.found?, wordStart, Spot.holds, Spot.capture, run_letter, h]

/-- Elsewhere it looks for one that ends a word, and such a character behind it. -/
theorem found_wordStart (h : before = [] → takesCapital c = false) (n : Nat) :
    wordStart.found? ⟨before, c :: t, n, []⟩ false =
      if endsWord c then
        letter.run ⟨c :: before, t, n + 1, [(1, [c])]⟩ fun s =>
          some (s.capture ⟨c :: before, t, n + 1, [(1, [c])]⟩ 2)
      else none := by
  cases before with
  | nil =>
    simp [Expr.found?, wordStart, Spot.holds, Spot.capture, run_delimiter, run_letter,
      h rfl]
  | cons d before =>
    simp [Expr.found?, wordStart, Spot.holds, Spot.capture, run_delimiter]

theorem found_word (hc : endsWord c = true) (hd : takesCapital d = true) (n : Nat) :
    wordStart.found? ⟨before, c :: d :: t, n, []⟩ false =
      some ⟨d :: c :: before, t, n + 2, [(2, [d]), (1, [c])]⟩ := by
  have hno : takesCapital c = false := by
    rw [Bool.eq_false_iff]
    intro h
    rw [endsWord_of_takesCapital h] at hc
    cases hc
  rw [found_wordStart fun _ => hno, if_pos hc, run_letter, if_pos hd]
  simp [Spot.capture]

theorem found_nothing (h : before = [] → takesCapital c = false)
    (hword : ¬ (endsWord c = true ∧ t.head?.any takesCapital = true)) (n : Nat) :
    wordStart.found? ⟨before, c :: t, n, []⟩ false = none := by
  rw [found_wordStart h]
  split
  · next hc =>
    cases t with
    | nil => exact run_letter_nil _
    | cons d t =>
      have hd : ¬ takesCapital d = true := fun hd => hword ⟨hc, hd⟩
      rw [run_letter, if_neg hd]
  · rfl

theorem found_nil : wordStart.found? ⟨before, [], n, []⟩ false = none := by
  cases before <;>
    simp [Expr.found?, wordStart, Spot.holds, Spot.capture, run_letter_nil, delimiter,
      Spot.meets]

/-! ## Capitalising -/

theorem capitalizeWords_of_not {fresh : Bool} (h : (fresh && takesCapital c) = false) :
    capitalizeWords fresh (c :: t) = c :: capitalizeWords (endsWord c) t := by
  rw [capitalizeWords, h]
  rfl

theorem capitalizeWords_of_capital (h : takesCapital c = true) :
    capitalizeWords true (c :: t) = upperChar c ++ capitalizeWords false t := by
  rw [capitalizeWords, h, endsWord_of_takesCapital h]
  rfl

/-- Whether a word may start after the text before a spot, given nearest character first. -/
def mayStart (before : Text) : Bool :=
  before.isEmpty || before.head?.any endsWord

theorem mayStart_of_takesCapital (h : takesCapital c = true) : mayStart (c :: before) = false := by
  simp [mayStart, endsWord_of_takesCapital h]

theorem exists_of_head?_any {p : Char → Bool} (h : t.head?.any p = true) :
    ∃ d rest, t = d :: rest ∧ p d = true := by
  cases t with
  | nil => cases h
  | cons d rest => exact ⟨d, rest, rfl, h⟩

/-- From a spot on the scan gives the capitals, unless a word starts there that has its delimiter
before the spot: the match takes both, so the scan does not come to such a spot. -/
theorem rewriteFrom_wordStart {fuel : Nat} (hf : t.length < fuel)
    (h : before = [] ∨ ¬ (mayStart before = true ∧ t.head?.any takesCapital = true)) (n : Nat) :
    wordStart.rewriteFrom capitalized fuel false ⟨before, t, n, []⟩ =
      capitalizeWords (mayStart before) t := by
  induction fuel generalizing before t n with
  | zero => omega
  | succ fuel ih =>
    cases t with
    | nil =>
      rw [Expr.rewriteFrom, found_nil]
      rfl
    | cons c t =>
      rw [List.length_cons] at hf
      by_cases hstart : before = [] ∧ takesCapital c = true
      · -- the word at the beginning of the text
        obtain ⟨rfl, hc⟩ := hstart
        have hrest : wordStart.rewriteFrom capitalized fuel false ⟨[c], t, n + 1, []⟩ =
            capitalizeWords false t := by
          rw [ih (by omega) (.inr (by simp [mayStart_of_takesCapital hc])),
            mayStart_of_takesCapital hc]
        rw [Expr.rewriteFrom_of_found (found_capital hc n) (Nat.succ_ne_self n) fuel, hrest]
        exact (capitalizeWords_of_capital hc).symm ▸ congrArg (· ++ _) (capitalized_pair [] c)
      · have hfresh : (mayStart before && takesCapital c) = false := by
          rcases h with rfl | h
          · simpa [mayStart] using hstart
          · simpa using h
        rw [capitalizeWords_of_not hfresh]
        by_cases hword : endsWord c = true ∧ t.head?.any takesCapital = true
        · -- the delimiter is taken with the word behind it
          obtain ⟨hc, hd⟩ := hword
          obtain ⟨d, rest, rfl, hd⟩ := exists_of_head?_any hd
          rw [List.length_cons] at hf
          have hrest : wordStart.rewriteFrom capitalized fuel false
              ⟨d :: c :: before, rest, n + 2, []⟩ = capitalizeWords false rest := by
            rw [ih (by omega) (.inr (by simp [mayStart_of_takesCapital hd])),
              mayStart_of_takesCapital hd]
          rw [Expr.rewriteFrom_of_found (found_word hc hd n) (by simp) fuel, hrest, hc,
            capitalizeWords_of_capital hd, ← List.cons_append]
          exact congrArg (· ++ _) (capitalized_pair [c] d)
        · have hnext : mayStart (c :: before) = endsWord c := rfl
          rw [Expr.rewriteFrom_of_none (found_nothing (by simpa using hstart) hword n),
            ih (by omega) (.inr (hnext ▸ hword)), hnext]

/-- Capitalising words is rewriting the matches of the expression. -/
theorem rewrite_wordStart (t : Text) :
    wordStart.rewrite capitalized t = capitalizeWords true t :=
  rewriteFrom_wordStart (by omega) (.inl rfl) 0

/-! ## Positions -/

/-- A word may start at the beginning and after a character that ends one. -/
def startsWord (t : Text) (i : Nat) : Bool :=
  i == 0 || (t[i - 1]?).any endsWord

/-- What becomes of a character at a position where words are capitalised. -/
def capitalAt (t : Text) (p : Char × Nat) : Text :=
  if startsWord t p.2 && takesCapital p.1 then upperChar p.1 else [p.1]

theorem startsWord_length (before t : Text) :
    startsWord (before.reverse ++ t) before.length = mayStart before := by
  cases before with
  | nil => rfl
  | cons d before => simp [startsWord, mayStart]

theorem capitalizeWords_eq_flatMap (before t : Text) :
    capitalizeWords (mayStart before) t =
      (t.zipIdx before.length).flatMap (capitalAt (before.reverse ++ t)) := by
  induction t generalizing before with
  | nil => rfl
  | cons c t ih =>
    have hnext : endsWord c = mayStart (c :: before) := rfl
    rw [capitalizeWords, hnext, ih (c :: before), List.zipIdx_cons, List.flatMap_cons, capitalAt,
      startsWord_length, List.reverse_cons, List.append_assoc, List.singleton_append,
      List.length_cons]

end Text

end NameTag
