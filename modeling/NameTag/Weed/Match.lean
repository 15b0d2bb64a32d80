import NameTag.Weed.Expr

/-!
# Matching weed expressions

An expression is matched from a spot in a text. `Expr.run` hands every way to match to a continuation,
best first, until one is accepted; so an expression takes back a choice that turns out wrong. A
repetition stops where a round has taken nothing, which bounds the number of rounds.
-/

namespace NameTag.Weed

/-- A spot in a text: what stands before it, nearest character first, what follows, and the texts of
the groups so far, latest first. -/
structure Spot where
  before : Text
  rest : Text
  position : Nat
  groups : List (Nat × Text) := []

namespace Spot

def start (t : Text) : Spot :=
  ⟨[], t, 0, []⟩

/-- The spot `n` characters further on. -/
def forward (s : Spot) (n : Nat) : Spot :=
  { s with
    before := (s.rest.take n).reverse ++ s.before
    rest := s.rest.drop n
    position := s.position + n }

/-- The spot `n` characters back, if there are as many. -/
def back? (s : Spot) (n : Nat) : Option Spot :=
  if n ≤ s.position then
    some { s with
      before := s.before.drop n
      rest := (s.before.take n).reverse ++ s.rest
      position := s.position - n }
  else none

/-- Notes the text from `opened` to here under a group. -/
def capture (s opened : Spot) (index : Nat) : Spot :=
  { s with groups := (index, opened.rest.take (s.position - opened.position)) :: s.groups }

def meets (s : Spot) (p : Char → Bool) : Bool :=
  match s.rest with
  | c :: _ => p c
  | [] => false

def follows (s : Spot) (p : Char → Bool) : Bool :=
  match s.before with
  | c :: _ => p c
  | [] => false

/-- Whether an anchor holds here. In an empty text there is neither a boundary nor a place without
one. -/
def holds (s : Spot) (m : Mode) : Anchor → Bool
  | .textStart => s.before.isEmpty
  | .textEnd => s.rest.isEmpty
  | .lineStart => s.before.isEmpty || (m.multiline && s.follows (· == '\n'))
  | .lineEnd => s.rest.isEmpty || s.rest == ['\n'] || (m.multiline && s.meets (· == '\n'))
  | .wordBoundary =>
    let isWord := CharClass.word.has m.ascii
    s.follows isWord != s.meets isWord
  | .noWordBoundary =>
    let isWord := CharClass.word.has m.ascii
    !(s.before.isEmpty && s.rest.isEmpty) && s.follows isWord == s.meets isWord

end Spot

/-- The form in which a repeated text is compared. -/
def Mode.plain (m : Mode) (c : Char) : Char :=
  if !m.ignoreCase then c else if m.ascii then c.toLower else lowerChar c

/-- What is done with a spot that was reached. -/
abbrev Continuation := Spot → Option Spot

/-- Rounds of a repetition, most first. `last` is where the last round beyond the least number
began; `count` rounds are done. -/
def roundsDown (body : Spot → Continuation → Option Spot) (least : Nat) (most : Option Nat)
    (k : Continuation) : (fuel count : Nat) → (last : Option Nat) → Continuation
  | 0, _, _, s => k s
  | fuel + 1, count, last, s =>
    if count < least then body s (roundsDown body least most k fuel (count + 1) last)
    else if most.all (count < ·) && last != some s.position then
      match body s (roundsDown body least most k fuel (count + 1) (some s.position)) with
      | some found => some found
      | none => k s
    else k s

/-- Rounds of a repetition, least first. -/
def roundsUp (body : Spot → Continuation → Option Spot) (least : Nat) (most : Option Nat)
    (k : Continuation) : (fuel count : Nat) → (last : Option Nat) → Continuation
  | 0, _, _, s => k s
  | fuel + 1, count, last, s =>
    if count < least then body s (roundsUp body least most k fuel (count + 1) last)
    else
      match k s with
      | some found => some found
      | none =>
        if most.all (count < ·) && last != some s.position then
          body s (roundsUp body least most k fuel (count + 1) (some s.position))
        else none

/-- As many rounds as there are; the first way to match a round is the only one. -/
def roundsAll (body : Spot → Option Spot) (least : Nat) (most : Option Nat) :
    (fuel count : Nat) → (last : Option Nat) → Continuation
  | 0, _, _, s => some s
  | fuel + 1, count, last, s =>
    if count < least then (body s).bind (roundsAll body least most fuel (count + 1) last)
    else if most.all (count < ·) && last != some s.position then
      match body s with
      | some s' => roundsAll body least most fuel (count + 1) (some s.position) s'
      | none => some s
    else some s

/-- After the least number every round begins further on than the one before. -/
def maxRounds (least : Nat) (s : Spot) : Nat :=
  least + s.rest.length + 3

namespace Expr

def run : Expr → Spot → Continuation → Option Spot
  | empty, s, k => k s
  | one m test, s, k => if s.meets (test.accepts m) then k (s.forward 1) else none
  | anchor m a, s, k => if s.holds m a then k s else none
  | seq a b, s, k => a.run s fun s' => b.run s' k
  | alt a b, s, k =>
    match a.run s k with
    | some found => some found
    | none => b.run s k
  | group none body, s, k => body.run s k
  | group (some index) body, s, k => body.run s fun s' => k (s'.capture s index)
  | same m index _, s, k =>
    match s.groups.lookup index with
    | none => none
    | some t =>
      let here := s.rest.take t.length
      if here.map m.plain = t.map m.plain then k (s.forward t.length) else none
  | repeated .greedy least most body, s, k =>
    roundsDown body.run least most k (maxRounds least s) 0 none s
  | repeated .reluctant least most body, s, k =>
    roundsUp body.run least most k (maxRounds least s) 0 none s
  | repeated .possessive least most body, s, k =>
    (roundsAll (fun s => body.run s some) least most (maxRounds least s) 0 none s).bind k
  | atomic body, s, k => (body.run s some).bind k
  | lookAhead negated body, s, k =>
    match body.run s some with
    | some found => if negated then none else k { s with groups := found.groups }
    | none => if negated then k s else none
  | lookBehind negated body, s, k =>
    match (s.back? body.width.least).bind (body.run · some) with
    | some found => if negated then none else k { s with groups := found.groups }
    | none => if negated then k s else none
  | ifGroup index yes no, s, k =>
    if (s.groups.lookup index).isSome then yes.run s k else no.run s k

/-- The length of the best match at a spot. Where `advancing`, a match must not be empty. -/
def matchAt? (e : Expr) (s : Spot) (advancing : Bool) : Option Nat :=
  (e.run s fun found => if advancing && found.position == s.position then none else some found).map
    fun found => found.position - s.position

/-- The text with every match, found from left to right, replaced. An empty match is replaced too,
also right after another match, but not twice at one place. -/
def replaceFrom (e : Expr) (replacement : Text) : (fuel : Nat) → (advancing : Bool) → Spot → Text
  | 0, _, s => s.rest
  | fuel + 1, advancing, s =>
    match e.matchAt? s advancing with
    | some n =>
      replacement ++ replaceFrom e replacement fuel (n == 0) { s.forward n with groups := [] }
    | none =>
      match s.rest with
      | c :: _ => c :: replaceFrom e replacement fuel false (s.forward 1)
      | [] => []

/-- At each place there is at most one empty match and one character to pass. -/
def replace (e : Expr) (replacement t : Text) : Text :=
  replaceFrom e replacement (2 * t.length + 2) false (.start t)

end Expr

end NameTag.Weed
