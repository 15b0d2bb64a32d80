import NameTag.Weed.Reading
import NameTag.Text.Letter

/-!
# Flags

Flags inside a group hold for the whole expression, which they must begin, or for the rest of the
group. The flags that choose the classes of characters exclude each other and cannot be switched off.
-/

namespace NameTag.Weed.Reading

inductive Flag
  | ignoreCase
  | multiline
  | dotAll
  | verbose
  | ascii
  | allScripts
  | bytes
  | template
  deriving DecidableEq, Repr

namespace Flag

def ofChar? : Char → Option Flag
  | 'i' => some ignoreCase
  | 'm' => some multiline
  | 's' => some dotAll
  | 'x' => some verbose
  | 'a' => some ascii
  | 'u' => some allScripts
  | 'L' => some bytes
  | 't' => some template
  | _ => none

/-- Flags that choose which characters belong to a class. -/
def isClassFlag : Flag → Bool
  | ascii | allScripts | bytes => true
  | _ => false

def put (on : Bool) (fs : Flags) : Flag → Flags
  | ignoreCase => { fs with mode := { fs.mode with ignoreCase := on } }
  | multiline => { fs with mode := { fs.mode with multiline := on } }
  | dotAll => { fs with mode := { fs.mode with dotAll := on } }
  | verbose => { fs with verbose := on }
  | ascii => { fs with mode := { fs.mode with ascii := on } }
  | allScripts => { fs with allScripts := on }
  | template => { fs with template := on }
  | bytes => fs

end Flag

def flagOf? : Text → Option Flag
  | [c] => Flag.ofChar? c
  | _ => none

/-- The flaw of a sign that is no flag: a letter is an unknown one, anything else stands where
something is missing. -/
def noFlag {α : Type} (sign : Text) (missing : String) : Reading α :=
  if !sign.isEmpty && sign.all isLetter then refuse .unknownFlag sign.length
  else refuse (.missing missing.toList) sign.length

/-- Flags to switch on, from `sign` on, and the sign that ends them. -/
def flagsOn (on : List Flag) (sign : Text) : (fuel : Nat) → Reading (List Flag × Text)
  | 0 => pure (on, sign)
  | fuel + 1 => do
    match flagOf? sign with
    | none => noFlag sign "-, : or )"
    | some f =>
      if f = .bytes then refuse .bytesFlag 0
      let on := on ++ [f]
      if f.isClassFlag && on.any fun g => g.isClassFlag && g != f then refuse .classFlagsClash 0
      match ← take with
      | none => refuse (.missing "-, : or )".toList) 0
      | some sign =>
        if sign = [')'] ∨ sign = ['-'] ∨ sign = [':'] then pure (on, sign)
        else flagsOn on sign fuel

/-- Flags to switch off, from `sign` on, up to the colon. -/
def flagsOff (off : List Flag) (sign : Text) (missing : String) : (fuel : Nat) → Reading (List Flag)
  | 0 => pure off
  | fuel + 1 => do
    match flagOf? sign with
    | none => noFlag sign missing
    | some f =>
      if f.isClassFlag then refuse .classFlagOff 0
      let off := off ++ [f]
      match ← take with
      | none => refuse (.missing ":".toList) 0
      | some sign => if sign = [':'] then pure off else flagsOff off sign ":" fuel

/-- Flags inside a group: those for the whole expression, or those to switch on and off inside. -/
def groupFlags (sign : Text) : Reading (Option (List Flag × List Flag)) := do
  let (on, stop) ← if sign = ['-'] then pure ([], sign) else flagsOn [] sign (← remaining)
  if stop = [')'] then
    modify fun r => { r with flags := on.foldl (Flag.put true) r.flags }
    pure none
  else
    if on.contains .template then refuse .globalFlagScoped 1
    let off ← if stop = ['-'] then
        match ← take with
        | none => refuse (.missing "flag".toList) 0
        | some sign => flagsOff [] sign "flag" (← remaining)
      else pure []
    if off.contains .template then refuse .globalFlagOff 1
    if on.any off.contains then refuse .flagOnAndOff 1
    pure (some (on, off))

/-- The flags inside a group. A class flag replaces the one outside. -/
def scopedFlags (fs : Flags) (on off : List Flag) : Flags :=
  let fs := if on.any Flag.isClassFlag then Flag.put false fs .ascii else fs
  off.foldl (Flag.put false) (on.foldl (Flag.put true) fs)

end NameTag.Weed.Reading
