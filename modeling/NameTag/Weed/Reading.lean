import NameTag.Weed.Expr
import NameTag.Text.Identifier
import NameTag.Fault

/-!
# The reader of weed expressions

An expression is read one sign at a time, a sign being a character or a backslash with the character
after it. The sign after the current one is always looked at too, so a backslash at the very end is
refused as soon as it comes next. Groups are counted as they are opened, and a group can be referred to
once it is closed.
-/

namespace NameTag.Weed

/-- Why an expression is refused: it has a flaw, or a number in it is out of bounds. -/
inductive Refusal
  | flawed (e : Error)
  | fault (f : Fault)
  deriving Repr

/-- The flags that an expression may switch on and off. -/
structure Flags where
  mode : Mode := {}
  verbose : Bool := false
  /-- The flag for all scripts was given in so many words. -/
  allScripts : Bool := false
  template : Bool := false
  deriving DecidableEq, Repr

/-- What is left to read, from which position on, and what is known of the groups so far. -/
structure Reader where
  rest : Text
  position : Nat
  flags : Flags := {}
  names : List (Text × Nat) := []
  /-- The widths of the groups opened so far; a group that is still open has none. -/
  widths : List (Option Width) := []
  /-- The number of groups, plus one, when the outermost look-behind was opened. -/
  behindFrom : Option Nat := none
  /-- The groups that conditions refer to, each with the position of the first reference. -/
  conditions : List (Nat × Nat) := []

abbrev Reading := StateT Reader (Except Refusal)

namespace Reading

/-! ## Signs -/

/-- Refuses the expression, `back` characters before what comes next. -/
def refuse {α : Type} (flaw : Flaw) (back : Nat) : Reading α := do
  throw (.flawed ⟨flaw, some ((← get).position - back)⟩)

def signOf : Text → Option Text
  | [] => none
  | '\\' :: c :: _ => some ['\\', c]
  | c :: _ => some [c]

/-- The sign that comes next. -/
def next : Reading (Option Text) := do
  pure (signOf (← get).rest)

/-- Refuses a backslash with nothing after it. -/
def lookOut : Reading Unit := do
  if (← get).rest = ['\\'] then refuse .endsInEscape 0

/-- Takes the next sign. -/
def take : Reading (Option Text) := do
  let sign ← next
  let n := (sign.getD []).length
  modify fun r => { r with rest := r.rest.drop n, position := r.position + n }
  lookOut
  pure sign

/-- Takes the next sign if it is the given character. -/
def accept (c : Char) : Reading Bool := do
  if (← next) = some [c] then
    discard take
    pure true
  else pure false

/-- Takes at most `n` signs that are characters with a property. -/
def takeWhile (p : Char → Bool) : (n : Nat) → Reading Text
  | 0 => pure []
  | n + 1 => do
    match ← next with
    | some [c] =>
      if p c then
        discard take
        pure (c :: (← takeWhile p n))
      else pure []
    | _ => pure []

/-- Takes a name up to its terminator, which is taken too; `length` signs are left at most. -/
def takeName (terminator : Char) (what : Text) (name : Text) : (fuel : Nat) → Reading Text
  | 0 => pure name
  | fuel + 1 => do
    match ← take with
    | none =>
      if name.isEmpty then refuse (.missing what) 0
      else refuse (.unterminatedName terminator) name.length
    | some sign =>
      if sign = [terminator] then
        if name.isEmpty then refuse (.missing what) 1 else pure name
      else takeName terminator what (name ++ sign) fuel

def remaining : Reading Nat := do
  pure ((← get).rest.length + 1)

def nameUpTo (terminator : Char) (what : String) : Reading Text := do
  takeName terminator what.toList [] (← remaining)

/-! ## Groups -/

/-- The number of the next group; groups count from one. -/
def nextGroup : Reading Nat := do
  pure ((← get).widths.length + 1)

/-- The width of a group that is closed. -/
def closedWidth? (index : Nat) : Reading (Option Width) := do
  match index with
  | 0 => pure none
  | i + 1 => pure (((← get).widths)[i]?.join)

/-- Inside a look-behind, a group must have been closed before the look-behind was opened. -/
def checkBehind (index : Nat) : Reading Unit := do
  match (← get).behindFrom with
  | none => pure ()
  | some groups =>
    if (← closedWidth? index).isNone then refuse .groupStillOpen 0
    if groups ≤ index then refuse .groupInSameLookBehind 0

/-- A reference to an earlier group that must be closed; a refusal points `back` characters back. -/
def reference (m : Mode) (index back : Nat) : Reading Expr := do
  match ← closedWidth? index with
  | none => refuse .groupStillOpen back
  | some width =>
    checkBehind index
    pure (.same m index width)

/-- Opens a group, under a name if it has one. -/
def openGroup (name : Option Text) : Reading Nat := do
  let index ← nextGroup
  modify fun r => { r with widths := r.widths ++ [none] }
  match name with
  | none => pure index
  | some n =>
    match (← get).names.lookup n with
    | some earlier => refuse (.groupNameTaken n index earlier) (n.length + 1)
    | none =>
      modify fun r => { r with names := (n, index) :: r.names }
      pure index

def closeGroup (index : Nat) (body : Expr) : Reading Unit :=
  modify fun r => { r with widths := r.widths.set (index - 1) (some body.width) }

def checkName (name : Text) : Reading Unit := do
  if !Text.isIdentifier name then refuse (.badGroupName name) (name.length + 1)

end Reading

end NameTag.Weed
