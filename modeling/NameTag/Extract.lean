import NameTag.Pattern
import NameTag.Store
import NameTag.Weed

/-!
# From a name to a tag

The name is read from left to right. Each literal of the pattern is looked up at its first occurrence
in what is left of the name; the text before it belongs to the placeholder before the literal. A
placeholder at the end takes what is left, unless a literal that was used occurs in it: then the name
most likely does not match the pattern. Placeholders named `IGNORE` drop their text.
-/

namespace NameTag

/-- How a captured text is changed before it is stored. -/
structure Conversion where
  marker : Value
  weed : Option Weed
  mode : Option CaseMode

namespace Conversion

/-- The text with the matches of the weed blanked, then put into the case mode. -/
def convert (c : Conversion) (t : Text) : Text :=
  let weeded := match c.weed with
    | some weed => weed.blank t
    | none => t
  match c.mode with
  | some mode => Text.inCase mode weeded
  | none => weeded

end Conversion

namespace Edit

/-- Stores a captured text and counts the field; a text under `IGNORE` is dropped. -/
def assign (c : Conversion) (name captured : Text) : Edit Nat := do
  if name = Field.ignored then pure 0
  else
    let _ ← store c.marker (.text name) (.text (c.convert captured))
    pure 1

/-- Gives what is left of the name to the last placeholder. -/
def assignRest (c : Conversion) (name rest : Text) (used : List Text) : Edit Nat := do
  if rest.isEmpty then throw (.problem (.nothingLeft name))
  match used.find? (Text.occursIn · rest) with
  | some separator => throw (.problem (.separatorReused name rest separator))
  | none => assign c name rest

/-- Reads what is left of the name along the tokens that are left; `pending` is the placeholder that
still waits for its text, `used` holds the literals so far. Gives the number of fields stored. -/
def readAlong (c : Conversion) : List Token → (rest : Text) → (pending : Option Text) →
    (used : List Text) → Edit Nat
  | [], rest, pending, used =>
    match pending with
    | some name => assignRest c name rest used
    | none => pure 0
  | .placeholder name :: tokens, rest, pending, used => do
    if pending.isSome then throw (.problem (.adjacentPlaceholders name))
    if (Field.ofName? name).isNone ∧ name ≠ Field.ignored then
      throw (.problem (.unknownPlaceholder name))
    readAlong c tokens rest (some name) used
  | .literal separator :: tokens, rest, pending, used => do
    match Text.cut? separator rest with
    | none => throw (.problem (.separatorNotFound separator))
    | some (captured, rest) =>
      let count ← match pending with
        | some name => assign c name captured
        | none => pure 0
      let more ← readAlong c tokens rest none (used ++ [separator])
      pure (count + more)

/-- The name to read: a text that is not blank, stripped. -/
def sourceName (source : Value) : Edit Text := do
  match source with
  | .text t =>
    let name := Text.strip t
    if name.isEmpty then throw (.problem .emptySource)
    pure name
  | _ => throw (.problem .emptySource)

/-- The pattern to read along: a text with a placeholder, stripped and normalized. -/
def sourcePattern (pattern : Value) : Edit Text := do
  match pattern with
  | .text t =>
    let p := Pattern.normalize (Text.strip t)
    if !Pattern.hasPlaceholder p then throw (.problem .noPlaceholder)
    pure p
  | _ => throw (.problem .noPlaceholder)

/-- The case mode of a strict operation: none or a known one. -/
def strictMode (mode : Value) : Edit (Option CaseMode) := do
  match mode with
  | .null => pure none
  | mode =>
    match CaseMode.ofValue? mode with
    | some m => pure (some m)
    | none => throw (.problem .unknownCaseMode)

/-- Sets the fields of the tag from a name along a pattern, and gives the number of fields stored.
The tag changes only if all goes well. -/
def extract (marker source pattern mode weed : Value) : Edit Nat := do
  let name ← sourceName source
  let pattern ← sourcePattern pattern
  let _ ← editable
  let mode ← strictMode mode
  let weed ← match weed with
    | .null => pure none
    | expr =>
      match Weed.compile expr with
      | .ok w => pure (some w)
      | .error e => throw e
  onCopy (readAlong ⟨marker, weed, mode⟩ (Pattern.tokens pattern) name none [])

end Edit

end NameTag
