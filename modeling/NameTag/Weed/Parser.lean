import NameTag.Weed.Escape
import NameTag.Weed.Flag

/-!
# Reading weed expressions

`Expr.read` gives the expression or the first flaw with its position. Flaws that only the whole
expression shows come last and have no position.
-/

namespace NameTag.Weed

namespace Reading

/-! ## Repetitions -/

/-- The number of repetitions from which on an expression is refused. -/
def maxRepeat : Nat := 4294967295

def repeatBound (digits : Text) : Reading Nat := do
  match Text.readNatural digits digits with
  | .error e => throw (.fault (.badValue (.integer e)))
  | .ok n => if maxRepeat ≤ n then throw (.fault .overflow) else pure n

/-- The bounds in braces, or nothing if what follows the brace are no bounds. -/
def bounds : Reading (Option (Nat × Option Nat)) := do
  let before ← get
  if (← next) = some ['\x7d'] then pure none
  else
    let lo ← takeWhile isAsciiDigit (← remaining)
    let hi ← if ← accept ',' then takeWhile isAsciiDigit (← remaining) else pure lo
    if !(← accept '\x7d') then
      set before
      pure none
    else
      let least ← if lo.isEmpty then pure 0 else repeatBound lo
      let most ← if hi.isEmpty then pure none else some <$> repeatBound hi
      if most.any (· < least) then
        throw (.flawed ⟨.repeatBounds, some before.position⟩)
      pure (some (least, most))

/-- The sign after a repetition, which says what is tried first. -/
def greed : Reading Greed := do
  if ← accept '?' then pure .reluctant
  else if ← accept '+' then pure .possessive
  else pure .greedy

/-- Repeats the last item; `start` is the position of the repetition's sign. -/
def repeatLast (start least : Nat) (most : Option Nat) :
    List Expr → Reading (List Expr)
  | [] | .anchor .. :: _ => throw (.flawed ⟨.nothingToRepeat, some start⟩)
  | .repeated .. :: _ => throw (.flawed ⟨.multipleRepeat, some start⟩)
  | item :: items => do
    pure (.repeated (← greed) least most item :: items)

/-! ## Expressions -/

/-- How a group is opened. -/
inductive Opening
  | group (name : Option Text)
  | plain
  | atomic
  | look (behind negated : Bool)
  | condition (index : Nat)
  | flags (on off : List Flag)
  | globalFlags
  | done (e : Option Expr)

/-- Takes a comment up to its closing bracket. -/
def comment (start : Nat) : (fuel : Nat) → Reading Unit
  | 0 => pure ()
  | fuel + 1 => do
    match ← next with
    | none => refuse .openComment ((← get).position - start)
    | some _ => if (← take) = some [')'] then pure () else comment start fuel

/-- A named group, or a reference to one. -/
def namedOpening (m : Mode) : Reading Opening := do
  if ← accept '<' then
    let name ← nameUpTo '>' "group name"
    checkName name
    pure (.group (some name))
  else if ← accept '=' then
    let name ← nameUpTo ')' "group name"
    checkName name
    match (← get).names.lookup name with
    | none => refuse (.unknownGroupName name) (name.length + 1)
    | some index => pure (.done (some (← reference m index (name.length + 1))))
  else
    match ← take with
    | none => refuse .unexpectedEnd 0
    | some sign => refuse (.unknownExtension ("?P".toList ++ sign)) (sign.length + 2)

/-- The highest number that a group may have. -/
def maxGroups : Nat := 1073741823

/-- The group that a condition asks for: by name, or by a number that may come later. -/
def conditionOpening : Reading Opening := do
  let name ← nameUpTo ')' "group name"
  let back := name.length + 1
  let index ← if Text.isIdentifier name then
      match (← get).names.lookup name with
      | none => refuse (.unknownGroupName name) back
      | some index => pure index
    else
      match Text.readInteger name with
      | .ok (.ofNat index) =>
        if index = 0 then refuse .badGroupNumber back
        if maxGroups ≤ index then refuse (.noSuchGroup index) back
        modify fun r =>
          if (r.conditions.lookup index).isSome then r
          else { r with conditions := r.conditions ++ [(index, r.position - back)] }
        pure index
      | _ => refuse (.badGroupName name) back
  checkBehind index
  pure (.condition index)

/-- What follows the opening bracket of a group at `start`. -/
def opening (m : Mode) (start : Nat) : Reading Opening := do
  if !(← accept '?') then pure (.group none)
  else
    match ← take with
    | none => refuse .unexpectedEnd 0
    | some ['P'] => namedOpening m
    | some [':'] => pure .plain
    | some ['#'] =>
      comment start (← remaining)
      pure (.done none)
    | some ['='] => pure (.look false false)
    | some ['!'] => pure (.look false true)
    | some ['<'] =>
      match ← take with
      | none => refuse .unexpectedEnd 0
      | some ['='] => pure (.look true false)
      | some ['!'] => pure (.look true true)
      | some sign => refuse (.unknownExtension ("?<".toList ++ sign)) (sign.length + 2)
    | some ['('] => conditionOpening
    | some ['>'] => pure .atomic
    | some sign =>
      if (flagOf? sign).isSome ∨ sign = ['-'] then
        match ← groupFlags sign with
        | none => pure .globalFlags
        | some (on, off) => pure (.flags on off)
      else refuse (.unknownExtension ('?' :: sign)) (sign.length + 1)

def isVerboseBlank (c : Char) : Bool :=
  c == ' ' || (decide ('\t' ≤ c) && decide (c ≤ '\r'))

/-- Takes the rest of a line. -/
def skipLine : (fuel : Nat) → Reading Unit
  | 0 => pure ()
  | fuel + 1 => do
    match ← take with
    | none | some ['\n'] => pure ()
    | some _ => skipLine fuel

/-- Takes the bracket that closes the group opened at `start`. -/
def closeBracket (start : Nat) : Reading Unit := do
  if !(← accept ')') then refuse .openGroup ((← get).position - start)

mutual

/-- Alternatives up to a closing bracket or the end. At the top, flags for the whole expression may
come first. -/
def alternatives (fs : Flags) (top first : Bool) : (fuel : Nat) → Reading Expr
  | 0 => pure .empty
  | fuel + 1 => do
    let e ← items fs (top && first) [] fuel
    if ← accept '|' then
      let whole := (← get).flags
      pure (.alt e (← alternatives (if top then whole else fs) top false fuel))
    else pure e

/-- Items one after the other; `done` holds those that were read, last first. -/
def items (fs : Flags) (first : Bool) (done : List Expr) : (fuel : Nat) → Reading Expr
  | 0 => pure (.sequence done.reverse)
  | fuel + 1 => do
    let more (e : Expr) : Reading Expr := items fs first (e :: done) fuel
    match ← next with
    | none | some ['|'] | some [')'] => pure (.sequence done.reverse)
    | some sign =>
      discard take
      match sign with
      | [c] =>
        match c with
        | '[' => more (← charSet fs.mode)
        | '.' => more (.one fs.mode .any)
        | '^' => more (.anchor fs.mode .lineStart)
        | '$' => more (.anchor fs.mode .lineEnd)
        | '(' =>
          let start := (← get).position - 1
          match ← opening fs.mode start with
          | .done none => items fs first done fuel
          | .done (some e) => more e
          | .globalFlags =>
            if !first || !done.isEmpty then refuse .lateFlags ((← get).position - start)
            items (← get).flags first done fuel
          | .group name =>
            let index ← openGroup name
            let body ← alternatives fs false false fuel
            closeBracket start
            closeGroup index body
            more (.group (some index) body)
          | .plain =>
            let body ← alternatives fs false false fuel
            closeBracket start
            more (.group none body)
          | .flags on off =>
            let body ← alternatives (scopedFlags fs on off) false false fuel
            closeBracket start
            more (.group none body)
          | .atomic =>
            let body ← alternatives fs false false fuel
            closeBracket start
            more (.atomic body)
          | .look behind negated =>
            let outer := (← get).behindFrom
            if behind ∧ outer.isNone then
              let groups ← nextGroup
              modify fun r => { r with behindFrom := some groups }
            let body ← alternatives fs false false fuel
            modify fun r => { r with behindFrom := if behind then outer else r.behindFrom }
            closeBracket start
            more (if behind then .lookBehind negated body else .lookAhead negated body)
          | .condition index =>
            let yes ← items fs false [] fuel
            let no ← if ← accept '|' then
                let no ← items fs false [] fuel
                if (← next) = some ['|'] then refuse .thirdBranch 0
                pure no
              else pure .empty
            closeBracket start
            more (.ifGroup index yes no)
        | _ =>
          let start := (← get).position - 1
          if fs.verbose ∧ isVerboseBlank c then items fs first done fuel
          else if fs.verbose ∧ c = '#' then
            skipLine (← remaining)
            items fs first done fuel
          else if c = '*' then items fs first (← repeatLast start 0 none done) fuel
          else if c = '+' then items fs first (← repeatLast start 1 none done) fuel
          else if c = '?' then items fs first (← repeatLast start 0 (some 1) done) fuel
          else if c = '\x7b' then
            match ← bounds with
            | none => more (.literal fs.mode c)
            | some (least, most) => items fs first (← repeatLast start least most done) fuel
          else more (.literal fs.mode c)
      | ['\\', c] => more (← escape fs.mode c)
      | _ => items fs first done fuel

end

end Reading

/-! ## Checks on the whole expression -/

namespace Expr

/-- The most characters that a look-behind may go back. -/
def maxBehind : Nat := 4294967295

def operatorName : Greed → Text
  | .greedy => "MAX_REPEAT".toList
  | .reluctant => "MIN_REPEAT".toList
  | .possessive => "POSSESSIVE_REPEAT".toList

/-- The first flaw of an expression that can be read: a look-behind of no fixed width, or a
repetition where the template flag forbids them. -/
def flaw? (template : Bool) : Expr → Option Flaw
  | empty | one .. | anchor .. | same .. => none
  | seq a b | alt a b | ifGroup _ a b => (a.flaw? template).or (b.flaw? template)
  | group _ body | atomic body | lookAhead _ body => body.flaw? template
  | repeated greed _ _ body =>
    if template then some (.templateRepeat (operatorName greed)) else body.flaw? template
  | lookBehind _ body =>
    let w := body.width
    if maxBehind < w.least then some .lookBehindTooFar
    else if w.least ≠ w.most then some .lookBehindWidth
    else body.flaw? template

open Reading in
/-- The whole expression, with nothing left over. -/
def whole : Reading Expr := do
  lookOut
  let e ← alternatives {} true true (2 * (← remaining) + 2)
  let r ← get
  if r.flags.mode.ascii ∧ r.flags.allScripts then throw (.fault (.badValue .characterSetFlags))
  if !r.rest.isEmpty then refuse .unbalanced 0
  match r.conditions.find? fun (index, _) => r.widths.length < index with
  | some (index, position) => throw (.flawed ⟨.noSuchGroup index, some position⟩)
  | none => pure ()
  match e.flaw? r.flags.template with
  | some flaw => throw (.flawed ⟨flaw, none⟩)
  | none => pure (e.guarded r.flags.mode)

/-- Reads an expression. -/
def read (t : Text) : Except Refusal Expr :=
  (whole.run { rest := t, position := 0 }).map (·.1)

end Expr

end NameTag.Weed
