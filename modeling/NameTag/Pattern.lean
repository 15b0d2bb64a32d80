import NameTag.Text.Alphanumeric
import NameTag.Text.Case
import NameTag.Fault

/-!
# Patterns

A pattern is text with placeholders `((NAME))`, a name being a run of word characters. Names are put
into upper case (`Pattern.normalize`), which may turn a name into one that is none; the literals and
placeholders of the text that results are the tokens of the pattern. `unparse` writes tokens back.
-/

namespace NameTag

inductive Token
  | literal (text : Text)
  | placeholder (name : Text)
  deriving DecidableEq, Repr

def Token.written : Token → Text
  | literal text => text
  | placeholder name => Problem.placeholder name

namespace Pattern

/-- The name of the placeholder that the text begins with. -/
def nameAt? : Text → Option Text
  | '(' :: '(' :: rest =>
    match rest.dropWhile isWordChar with
    | ')' :: ')' :: _ =>
      let name := rest.takeWhile isWordChar
      if name.isEmpty then none else some name
    | _ => none
  | _ => none

/-- The pattern cut into single characters and placeholders, after leaving out some characters. -/
def parts : (skip : Nat) → Text → List (Char ⊕ Text)
  | _, [] => []
  | skip + 1, _ :: rest => parts skip rest
  | 0, c :: rest =>
    match nameAt? (c :: rest) with
    -- a name stands between two brackets on either side, and `c` is the first of them
    | some name => .inr name :: parts (name.length + 3) rest
    | none => .inl c :: parts 0 rest

/-- The pattern with its placeholders replaced in one pass: what comes in for one is not read again. -/
def substitute (replacement : Text → Text) (pattern : Text) : Text :=
  (parts 0 pattern).flatMap fun
    | .inl c => [c]
    | .inr name => replacement name

/-- The pattern with the names of its placeholders in upper case. -/
def normalize (pattern : Text) : Text :=
  substitute (fun name => Problem.placeholder (Text.upper name)) pattern

/-- Joins neighbouring characters into one literal. -/
def group : List (Char ⊕ Text) → List Token
  | [] => []
  | .inr name :: rest => .placeholder name :: group rest
  | .inl c :: rest =>
    match group rest with
    | .literal text :: tokens => .literal (c :: text) :: tokens
    | tokens => .literal [c] :: tokens

/-- Literals and placeholders; no literal is empty and no two stand side by side. -/
def tokens (pattern : Text) : List Token :=
  group (parts 0 (normalize pattern))

def unparse (ts : List Token) : Text :=
  ts.flatMap Token.written

/-- Whether a placeholder occurs in the text as it is. -/
def hasPlaceholder (pattern : Text) : Bool :=
  (parts 0 pattern).any Sum.isRight

/-- The fields that the pattern names, in the order of their first placeholders. -/
def fields (pattern : Text) : List Field :=
  ((tokens pattern).filterMap fun
    | .placeholder name => Field.ofName? name
    | .literal _ => none).eraseDups

/-! ## Patterns given as values -/

/-- The pattern with upper-case names; nothing stays nothing. -/
def normalizeValue : Value → Except Fault Value
  | .null => .ok .null
  | .text t => .ok (.text (normalize t))
  | _ => .error .wrongType

def tokensOf : Value → Except Fault (List Token)
  | .text t => .ok (tokens t)
  | _ => .error .wrongType

/-- The fields of a pattern; a value that counts as false names none. -/
def fieldsOf (pattern : Value) : Except Fault (List Field) :=
  if !pattern.isTrue then .ok []
  else
    match pattern with
    | .text t => .ok (fields t)
    | _ => .error .wrongType

end Pattern

end NameTag
