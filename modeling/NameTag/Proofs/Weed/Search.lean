import NameTag.Weed

/-!
# Searching with an expression

The match of a whole text (`Expr.whole?`), a text with all matches rewritten (`Expr.rewrite`), what an
expression does at a spot, by its first constructor (`Expr.run_seq` and those beside it), and a greedy
repetition round by round (`roundsDown_of_le`, `roundsDown_of_most`). Expressions can be compared, so
that evaluation tells which one a text is read as.
-/

namespace NameTag.Weed

deriving instance DecidableEq for Expr

/-- Accepts the end of the text. -/
def atEnd : Continuation := fun s =>
  if s.rest.isEmpty then some s else none

theorem atEnd_of_ne_nil {s : Spot} (h : s.rest ≠ []) : atEnd s = none := by
  rw [atEnd, if_neg (by simpa using h)]

/-! ## Rounds of a repetition -/

section

variable {body : Spot → Continuation → Option Spot} {least fuel count : Nat} {most last : Option Nat}
  {k : Continuation} {s : Spot}

/-- A further round is tried before what follows. -/
theorem roundsDown_of_le (hleast : least ≤ count) (hmost : ∀ m ∈ most, count < m)
    (hlast : last ≠ some s.position) :
    roundsDown body least most k (fuel + 1) count last s =
      (body s (roundsDown body least most k fuel (count + 1) (some s.position))).or (k s) := by
  have hgoes : (most.all (count < ·) && last != some s.position) = true := by
    rw [Bool.and_eq_true, Option.all_eq_true, bne_iff_ne]
    exact ⟨fun m hm => decide_eq_true (hmost m hm), hlast⟩
  rw [roundsDown, if_neg (Nat.not_lt.2 hleast), if_pos hgoes]
  cases body s (roundsDown body least most k fuel (count + 1) (some s.position)) <;> rfl

/-- After the most rounds there is no further one. -/
theorem roundsDown_of_most {m : Nat} (hleast : least ≤ count) (hmost : m ≤ count) :
    roundsDown body least (some m) k (fuel + 1) count last s = k s := by
  have hall : (some m).all (count < ·) = false := decide_eq_false (Nat.not_lt.2 hmost)
  rw [roundsDown, if_neg (Nat.not_lt.2 hleast), hall, Bool.false_and, if_neg Bool.false_ne_true]

end

/-! ## Steps of a match -/

namespace Expr

section

variable {a b body : Expr} {s : Spot} {k : Continuation}

@[simp] theorem run_one (m : Mode) (test : CharTest) :
    (one m test).run s k = if s.meets (test.accepts m) then k (s.forward 1) else none := rfl

@[simp] theorem run_anchor (m : Mode) (place : Anchor) :
    (anchor m place).run s k = if s.holds m place then k s else none := rfl

@[simp] theorem run_seq : (seq a b).run s k = a.run s fun s' => b.run s' k := rfl

@[simp] theorem run_alt : (alt a b).run s k = (a.run s k).or (b.run s k) := by
  rw [run]
  cases a.run s k <;> rfl

@[simp] theorem run_capture (index : Nat) :
    (group (some index) body).run s k = body.run s fun s' => k (s'.capture s index) := rfl

theorem run_greedy (least : Nat) (most : Option Nat) :
    (repeated .greedy least most body).run s k =
      roundsDown body.run least most k (maxRounds least s) 0 none s := rfl

end

/-! ## Reading, matching and rewriting -/

theorem read_of_toOption {t : Text} {e : Expr} (h : (read t).toOption = some e) :
    read t = .ok e := by
  cases hread : read t with
  | ok e' =>
    rw [hread] at h
    exact congrArg _ (Option.some.inj h)
  | error r =>
    rw [hread] at h
    cases h

/-- The best match of the whole text. -/
def whole? (e : Expr) (t : Text) : Option Spot :=
  e.run (.start t) atEnd

/-- Where the best match at a spot ends. -/
def found? (e : Expr) (s : Spot) (advancing : Bool) : Option Spot :=
  e.run s fun found => if advancing && found.position == s.position then none else some found

/-- The text with every match, found from left to right, replaced by what is made of its groups. -/
def rewriteFrom (e : Expr) (make : List (Nat × Text) → Text) :
    (fuel : Nat) → (advancing : Bool) → Spot → Text
  | 0, _, s => s.rest
  | fuel + 1, advancing, s =>
    match e.found? s advancing with
    | some found =>
      make found.groups ++
        rewriteFrom e make fuel (found.position == s.position) { found with groups := [] }
    | none =>
      match s.rest with
      | c :: _ => c :: rewriteFrom e make fuel false (s.forward 1)
      | [] => []

def rewrite (e : Expr) (make : List (Nat × Text) → Text) (t : Text) : Text :=
  rewriteFrom e make (2 * t.length + 2) false (.start t)

variable {e : Expr} {make : List (Nat × Text) → Text}

theorem rewriteFrom_of_found {s found : Spot} (h : e.found? s false = some found)
    (hn : found.position ≠ s.position) (fuel : Nat) :
    e.rewriteFrom make (fuel + 1) false s =
      make found.groups ++ e.rewriteFrom make fuel false { found with groups := [] } := by
  rw [rewriteFrom, h]
  simp only [beq_eq_false_iff_ne.2 hn]

theorem rewriteFrom_of_none {before t : Text} {c : Char} {n : Nat}
    (h : e.found? ⟨before, c :: t, n, []⟩ false = none) (fuel : Nat) :
    e.rewriteFrom make (fuel + 1) false ⟨before, c :: t, n, []⟩ =
      c :: e.rewriteFrom make fuel false ⟨c :: before, t, n + 1, []⟩ := by
  rw [rewriteFrom, h]
  rfl

end Expr

end NameTag.Weed
