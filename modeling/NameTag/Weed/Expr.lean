import NameTag.Text.Capitals

/-!
# Weed expressions

What a weed expression means, character by character: which characters a test accepts, and the shape
of an expression with its groups, repetitions and conditions.
-/

namespace NameTag.Weed

/-- How characters are compared and classified. -/
structure Mode where
  ignoreCase : Bool := false
  multiline : Bool := false
  dotAll : Bool := false
  ascii : Bool := false
  deriving DecidableEq, Repr

inductive CharClass
  | digit
  | blank
  | word
  deriving DecidableEq, Repr

namespace CharClass

def hasAscii (k : CharClass) (c : Char) : Bool :=
  match k with
  | digit => isAsciiDigit c
  | blank => c == ' ' || (decide ('\t' ≤ c) && decide (c ≤ '\r'))
  | word => c.isAlphanum || c == '_'

def has (k : CharClass) (ascii : Bool) (c : Char) : Bool :=
  if ascii then k.hasAscii c
  else
    match k with
    | digit => isDecimalDigit c
    | blank => isBlank c
    | word => isWordChar c

end CharClass

/-- A part of a character set. Code points may be no characters; such a part accepts nothing. -/
inductive SetItem
  | code (n : Nat)
  | range (first last : Nat)
  | ofClass (k : CharClass) (negated : Bool)
  deriving DecidableEq, Repr

/-- The code points of the characters that count as equal to `c`. -/
def Mode.variants (m : Mode) (c : Char) : List Nat :=
  if !m.ignoreCase then [c.toNat]
  else if m.ascii then [c.toNat, c.toLower.toNat, c.toUpper.toNat]
  else caseVariants c

/-- Whether a part accepts a character with the given variants. -/
def SetItem.accepts (m : Mode) (c : Char) (variants : List Nat) : SetItem → Bool
  | code n => variants.contains n
  | range first last => variants.any fun n => decide (first ≤ n) && decide (n ≤ last)
  | ofClass k negated => k.has m.ascii c != negated

/-- A test of a single character. -/
inductive CharTest
  | any
  | set (negated : Bool) (items : List SetItem)
  deriving DecidableEq, Repr

def CharTest.accepts (m : Mode) (c : Char) : CharTest → Bool
  | any => m.dotAll || c != '\n'
  | set negated items =>
    let variants := m.variants c
    items.any (·.accepts m c variants) != negated

inductive Anchor
  | lineStart
  | lineEnd
  | textStart
  | textEnd
  | wordBoundary
  | noWordBoundary
  deriving DecidableEq, Repr

/-- In which order the numbers of repetitions are tried: most first, least first, or as many as
there are and no other number. -/
inductive Greed
  | greedy
  | reluctant
  | possessive
  deriving DecidableEq, Repr

/-- The least and the most characters that an expression takes. -/
structure Width where
  least : Nat
  most : Nat
  deriving DecidableEq, Repr

inductive Expr
  | empty
  | one (mode : Mode) (test : CharTest)
  | anchor (mode : Mode) (a : Anchor)
  | seq (first second : Expr)
  | alt (first second : Expr)
  | group (index : Option Nat) (body : Expr)
  /-- The text of an earlier group, whose width was the given one. -/
  | same (mode : Mode) (index : Nat) (width : Width)
  | repeated (greed : Greed) (least : Nat) (most : Option Nat) (body : Expr)
  | atomic (body : Expr)
  | lookAhead (negated : Bool) (body : Expr)
  | lookBehind (negated : Bool) (body : Expr)
  | ifGroup (index : Nat) (yes no : Expr)
  deriving Repr

namespace Expr

def literal (mode : Mode) (c : Char) : Expr :=
  one mode (.set false [.code c.toNat])

/-- The expressions one after the other. -/
def sequence : List Expr → Expr
  | [] => empty
  | [e] => e
  | e :: rest => seq e (sequence rest)

/-- Widths count up to here. -/
def maxWidth : Nat := 0x10000000000000000

/-- The least and the most characters, the latter `maxWidth` where there is no bound. -/
def rawWidth : Expr → Width
  | empty | anchor .. | lookAhead .. | lookBehind .. => ⟨0, 0⟩
  | one .. => ⟨1, 1⟩
  | seq a b =>
    let v := a.rawWidth
    let w := b.rawWidth
    ⟨v.least + w.least, v.most + w.most⟩
  | alt a b | ifGroup _ a b =>
    let v := a.rawWidth
    let w := b.rawWidth
    ⟨min v.least w.least, max v.most w.most⟩
  | group _ body | atomic body => body.rawWidth
  | same _ _ width => width
  | repeated _ least most body =>
    let w := body.rawWidth
    let top := match most with
      | some n => w.most * n
      | none => if w.most = 0 then 0 else maxWidth
    ⟨w.least * least, top⟩

def width (e : Expr) : Width :=
  let w := e.rawWidth
  ⟨min w.least maxWidth, min w.most maxWidth⟩

/-! ## The first character -/

/-- The test of the first character, where the expression begins with one, and its mode. -/
def firstTest? : Expr → Option (Mode × CharTest)
  | one m test => some (m, test)
  | seq first _ => first.firstTest?
  | group _ body => body.firstTest?
  | _ => none

/-- Whether some character of a part differs from others in case only. -/
def hasCase (m : Mode) : SetItem → Bool
  | .code n => isCasedCode n
  | .range first last =>
    decide (0xffff < last) || (List.range (last + 1 - first)).any fun k => isCasedCode (first + k)
  | .ofClass .. => false
where
  isCasedCode (n : Nat) : Bool := (m.variants (Char.ofNat n)).any (· != n)

/-- The expression with a look at its first character in front: the set that it begins with must accept
the character also in the mode of the whole expression. This matters for the classes of characters,
where a group has a mode of its own. -/
def guarded (whole : Mode) (e : Expr) : Expr :=
  match e.firstTest? with
  | some (m, .set negated items) =>
    if m.ascii = whole.ascii ∨ (m.ignoreCase ∧ items.any (hasCase m)) then e
    else seq (lookAhead false (one { whole with ignoreCase := false } (.set negated items))) e
  | _ => e

end Expr

end NameTag.Weed
