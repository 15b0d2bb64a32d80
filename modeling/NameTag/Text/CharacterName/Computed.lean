import NameTag.Text.Basic
import NameTag.Text.Digit

/-!
# Computed character names

An ideograph is named by its code point, a Hangul syllable by the sounds it is made of.
-/

namespace NameTag.CharacterName

def upperHexDigit? (c : Char) : Option Nat :=
  if isAsciiDigit c then some (c.toNat - '0'.toNat)
  else if 'A' ≤ c ∧ c ≤ 'F' then some (c.toNat - 'A'.toNat + 10)
  else none

/-- The number with the given digits. -/
def upperHex? (digits : Text) : Option Nat :=
  digits.foldl (fun n c => n.bind fun n => (upperHexDigit? c).map (16 * n + ·)) (some 0)

/-- The code points of the unified ideographs. -/
def unifiedIdeographs : List (Nat × Nat) := [
  (0x3400, 0x4dbf), (0x4e00, 0x9fff), (0x20000, 0x2a6df), (0x2a700, 0x2b738), (0x2b740, 0x2b81d),
  (0x2b820, 0x2cea1), (0x2ceb0, 0x2ebe0), (0x30000, 0x3134a)]

/-- The other characters that are named by their code points. -/
def numbered : List (String × Nat × Nat) := [
  ("CJK COMPATIBILITY IDEOGRAPH-", 0xf900, 0xfa6d),
  ("CJK COMPATIBILITY IDEOGRAPH-", 0xfa70, 0xfad9),
  ("CJK COMPATIBILITY IDEOGRAPH-", 0x2f800, 0x2fa1d),
  ("NUSHU CHARACTER-", 0x1b170, 0x1b2fb),
  ("KHITAN SMALL SCRIPT CHARACTER-", 0x18b00, 0x18cd5)]

/-- A unified ideograph by four or five digits. -/
def unified? (name : Text) : Option Nat := do
  let digits ← Text.after? "CJK UNIFIED IDEOGRAPH-".toList name
  let code ← upperHex? digits
  if (digits.length = 4 ∨ digits.length = 5)
      ∧ unifiedIdeographs.any fun (first, last) => first ≤ code && code ≤ last then
    some code
  else none

/-- A numbered character by the digits of its code point, without zeros in front. -/
def numbered? (name : Text) : Option Nat :=
  numbered.findSome? fun (kind, first, last) => do
    let digits ← Text.after? kind.toList name
    let code ← upperHex? digits
    if digits.head? ≠ some '0' ∧ first ≤ code ∧ code ≤ last then some code else none

/-- The sounds at the beginning of a syllable. -/
def leading : List String :=
  ["G", "GG", "N", "D", "DD", "R", "M", "B", "BB", "S", "SS", "", "J", "JJ", "C", "K", "T", "P", "H"]

/-- The sounds in the middle of a syllable. -/
def vowels : List String :=
  ["A", "AE", "YA", "YAE", "EO", "E", "YEO", "YE", "O", "WA", "WAE", "OE", "YO", "U", "WEO", "WE",
    "WI", "YU", "EU", "YI", "I"]

/-- The sounds at the end of a syllable. -/
def trailing : List String :=
  ["", "G", "GG", "GS", "N", "NJ", "NH", "D", "L", "LG", "LM", "LB", "LS", "LT", "LP", "LH", "M", "B",
    "BS", "S", "SS", "NG", "J", "C", "K", "T", "P", "H"]

/-- The index of the longest sound at the beginning of a text, and what comes after it. -/
def longest? (sounds : List String) (t : Text) : Option (Nat × Text) :=
  let found := sounds.zipIdx.filterMap fun (sound, i) => (Text.after? sound.toList t).map (i, ·)
  found.foldl (fun best next =>
    match best with
    | some (_, rest) => if next.2.length < rest.length then some next else best
    | none => some next) none

/-- Syllables are ordered by their first sound, then by the vowel, then by the last sound. -/
def syllable? (name : Text) : Option Nat := do
  let sounds ← Text.after? "HANGUL SYLLABLE ".toList name
  let (first, rest) ← longest? leading sounds
  let (vowel, rest) ← longest? vowels rest
  let (last, rest) ← longest? trailing rest
  if rest.isEmpty then some (0xac00 + (first * vowels.length + vowel) * trailing.length + last) else none

end NameTag.CharacterName
