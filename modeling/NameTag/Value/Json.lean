import NameTag.Value.Basic
import NameTag.Text.Quoted

/-!
# Values as JSON

A value over several lines, each item and entry on a line of its own and indented by two spaces a
level. In texts the quotation mark, the backslash and the controls are escaped, nothing else.
-/

namespace NameTag

namespace Text

def escapeJson (c : Char) : Text :=
  if c = '"' ∨ c = '\\' then ['\\', c]
  else if c = '\n' then ['\\', 'n']
  else if c = '\r' then ['\\', 'r']
  else if c = '\t' then ['\\', 't']
  else if c = '\x08' then ['\\', 'b']
  else if c = '\x0c' then ['\\', 'f']
  else if c.toNat < 0x20 then '\\' :: 'u' :: hex 4 c.toNat
  else [c]

def json (t : Text) : Text :=
  '"' :: t.flatMap escapeJson ++ ['"']

/-- A line break and the indentation of a level. -/
def newLine (depth : Nat) : Text :=
  '\n' :: List.replicate (2 * depth) ' '

/-- Parts between brackets, each on a line of its own; brackets alone if there is none. -/
def jsonBlock (opening closing : Char) (depth : Nat) (parts : List Text) : Text :=
  if parts.isEmpty then [opening, closing]
  else
    opening :: join [','] (parts.map (newLine (depth + 1) ++ ·)) ++ newLine depth ++ [closing]

end Text

namespace Value

mutual

/-- The value as it stands on a level; the first line is not indented. -/
def jsonAt (depth : Nat) : Value → Text
  | .null => "null".toList
  | .flag true => "true".toList
  | .flag false => "false".toList
  | .int n => Text.ofInt n
  | .real x => x.toText
  | .text t => Text.json t
  | .list items => Text.jsonBlock '[' ']' depth (jsonItems (depth + 1) items)
  | .record entries => Text.jsonBlock '\x7b' '\x7d' depth (jsonEntries (depth + 1) entries)

def jsonItems (depth : Nat) : List Value → List Text
  | [] => []
  | item :: rest => jsonAt depth item :: jsonItems depth rest

def jsonEntries (depth : Nat) : List (Text × Value) → List Text
  | [] => []
  | (key, value) :: rest =>
    (Text.json key ++ ": ".toList ++ jsonAt depth value) :: jsonEntries depth rest

end

def json (v : Value) : Text :=
  v.jsonAt 0

end Value

end NameTag
