import NameTag.Weed.Reading
import NameTag.Text.CharacterName

/-!
# Escapes and character sets

An escape stands for a character, for a class of characters, for a place in the text, or for the text
of a group; inside a set only for the first two.
-/

namespace NameTag.Weed.Reading

/-! ## Escapes -/

def isHexDigit (c : Char) : Bool :=
  isAsciiDigit c || (decide ('a' ≤ c) && decide (c ≤ 'f')) || (decide ('A' ≤ c) && decide (c ≤ 'F'))

def isOctalDigit (c : Char) : Bool :=
  decide ('0' ≤ c) && decide (c ≤ '7')

def digitIn (c : Char) : Nat :=
  if isAsciiDigit c then c.toNat - '0'.toNat else c.toLower.toNat - 'a'.toNat + 10

def numberIn (base : Nat) (digits : Text) : Nat :=
  digits.foldl (fun n c => base * n + digitIn c) 0

/-- A code point by exactly `n` hexadecimal digits after an escape. A number that is no code point is
refused, and one beyond 31 bits is out of bounds. -/
def hexEscape (escape : Text) (n : Nat) : Reading Nat := do
  let digits ← takeWhile isHexDigit n
  let escape := escape ++ digits
  if digits.length ≠ n then refuse (.incompleteEscape escape) escape.length
  let code := numberIn 16 digits
  if 0x7fffffff < code then throw (.fault .overflow)
  if 0x10ffff < code then refuse (.badEscape escape) escape.length
  pure code

/-- A character by its name in braces. -/
def namedEscape : Reading Nat := do
  if !(← accept '\x7b') then refuse .missingBrace 0
  let name ← nameUpTo '\x7d' "character name"
  match characterNamed? name with
  | some code => pure code
  | none => refuse (.unknownCharacter name) (name.length + 4)

def checkOctal (escape : Text) : Reading Nat := do
  let code := numberIn 8 (escape.drop 1)
  if 0o377 < code then refuse (.octalTooLarge escape) escape.length
  pure code

/-- The control characters that have an escape of their own. -/
def controlEscape? : Char → Option Nat
  | 'a' => some 7
  | 'b' => some 8
  | 'f' => some 12
  | 'n' => some 10
  | 'r' => some 13
  | 't' => some 9
  | 'v' => some 11
  | '\\' => some 92
  | _ => none

def classEscape? : Char → Option SetItem
  | 'd' => some (.ofClass .digit false)
  | 'D' => some (.ofClass .digit true)
  | 's' => some (.ofClass .blank false)
  | 'S' => some (.ofClass .blank true)
  | 'w' => some (.ofClass .word false)
  | 'W' => some (.ofClass .word true)
  | _ => none

def anchorEscape? : Char → Option Anchor
  | 'A' => some .textStart
  | 'Z' => some .textEnd
  | 'b' => some .wordBoundary
  | 'B' => some .noWordBoundary
  | _ => none

/-- The code point of an escape that means the same inside and outside of sets. -/
def codeEscape (c : Char) : Reading Nat := do
  let escape := ['\\', c]
  match c with
  | 'x' => hexEscape escape 2
  | 'u' => hexEscape escape 4
  | 'U' => hexEscape escape 8
  | 'N' => namedEscape
  | c => if c.isAlphanum then refuse (.badEscape escape) 2 else pure c.toNat

/-- An escape inside a set. -/
def setEscape (c : Char) : Reading SetItem := do
  match controlEscape? c, classEscape? c with
  | some code, _ => pure (.code code)
  | none, some item => pure item
  | none, none =>
    if isOctalDigit c then
      pure (.code (← checkOctal ('\\' :: c :: (← takeWhile isOctalDigit 2))))
    else pure (.code (← codeEscape c))

/-- A backslash and digits: a character by its octal code, or a reference to a group. -/
def digitEscape (m : Mode) (c : Char) : Reading Expr := do
  let code (n : Nat) : Expr := .one m (.set false [.code n])
  if c = '0' then pure (code (numberIn 8 (← takeWhile isOctalDigit 2)))
  else
    let second ← takeWhile isAsciiDigit 1
    let octal := isOctalDigit c && !second.isEmpty && second.all isOctalDigit
    let third ← if octal then takeWhile isOctalDigit 1 else pure []
    let escape := '\\' :: c :: second ++ third
    if !third.isEmpty then pure (code (← checkOctal escape))
    else
      let index := numberIn 10 (c :: second)
      if index < (← nextGroup) then reference m index escape.length
      else refuse (.noSuchGroup index) (escape.length - 1)

/-- An escape outside of sets. -/
def escape (m : Mode) (c : Char) : Reading Expr := do
  match anchorEscape? c, classEscape? c, controlEscape? c with
  | some a, _, _ => pure (.anchor m a)
  | none, some item, _ => pure (.one m (.set false [item]))
  | none, none, some code => pure (.one m (.set false [.code code]))
  | none, none, none =>
    if isAsciiDigit c then digitEscape m c
    else pure (.one m (.set false [.code (← codeEscape c)]))

/-! ## Sets -/

def setSign (sign : Text) : Reading SetItem :=
  match sign with
  | [c] => pure (.code c.toNat)
  | ['\\', c] => setEscape c
  | _ => pure (.code 0)

/-- The parts of a set up to its closing bracket; a bracket that comes first is a part. The set was
opened at `start`. -/
def setItems (start : Nat) (items : List SetItem) : (fuel : Nat) → Reading (List SetItem)
  | 0 => pure items
  | fuel + 1 => do
    let open? : Reading Text := do
      match ← take with
      | some sign => pure sign
      | none => refuse .openSet ((← get).position - start)
    let sign ← open?
    if sign = [']'] ∧ !items.isEmpty then pure items
    else
      let first ← setSign sign
      if !(← accept '-') then setItems start (items ++ [first]) fuel
      else
        let other ← open?
        if other = [']'] then pure (items ++ [first, .code '-'.toNat])
        else
          let last ← setSign other
          match first, last with
          | .code lo, .code hi =>
            if hi < lo then refuse (.badRange sign other) (sign.length + 1 + other.length)
            setItems start (items ++ [.range lo hi]) fuel
          | _, _ => refuse (.badRange sign other) (sign.length + 1 + other.length)

def charSet (m : Mode) : Reading Expr := do
  let start := (← get).position - 1
  let negated ← accept '^'
  pure (.one m (.set negated (← setItems start [] (← remaining))))

end NameTag.Weed.Reading
