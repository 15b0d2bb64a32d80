import NameTag.Text.CaseTables

/-!
# Upper and lower case

`Text.lower` and `Text.upper` apply the full mappings: one character may become several, and a
capital sigma becomes the final form where a cased letter comes before it and none after it.
Two characters differ in case only if the upper cases of their lower cases agree
(`sameButCase`); `caseVariants` lists the characters that differ from one in case only.
-/

namespace NameTag

/-- The lower case of a single character, as a single character. -/
def lowerChar (c : Char) : Char :=
  if c.toNat < 128 then c.toLower
  else if c.toNat = 0x130 then 'i'
  else Char.ofNat ((lowerRuns.findSome? (·.image? c.toNat)).getD c.toNat)

/-- The upper case of a character: one or more characters. -/
def upperChar (c : Char) : Text :=
  if c.toNat < 128 then [c.toUpper]
  else match longUppers.lookup c.toNat with
    | some codes => codes.map Char.ofNat
    | none => [Char.ofNat ((upperRuns.findSome? (·.image? c.toNat)).getD c.toNat)]

def isCased (c : Char) : Bool :=
  casedRanges.has c.toNat

def isCaseIgnorable (c : Char) : Bool :=
  caseIgnorableRanges.has c.toNat

namespace Text

/-- Whether the first character that counts for case has case. -/
def meetsCased (t : Text) : Bool :=
  match t.dropWhile isCaseIgnorable with
  | c :: _ => isCased c
  | [] => false

/-- The lower case of a character between the text before it, nearest first, and the text after it. -/
def lowerBetween (before : Text) (c : Char) (after : Text) : Text :=
  if c = 'Σ' then [if meetsCased before && !meetsCased after then 'ς' else 'σ']
  else if c = 'İ' then ['i', '\u0307']
  else [lowerChar c]

/-- The lower case of a text that follows `before`, given nearest character first. -/
def lowerAfter : (before text : Text) → Text
  | _, [] => []
  | before, c :: rest => lowerBetween before c rest ++ lowerAfter (c :: before) rest

def lower (t : Text) : Text :=
  lowerAfter [] t

def upper (t : Text) : Text :=
  t.flatMap upperChar

end Text

/-! ## Differing in case only -/

/-- Two characters with the same key differ in case only. -/
def caseKey (c : Char) : Text :=
  upperChar (lowerChar c)

def sameButCase (c d : Char) : Bool :=
  caseKey c == caseKey d

/-- Code points whose upper case is the given text. -/
def upperSources (image : Text) : List Nat :=
  let long := longUppers.filterMap fun (n, codes) =>
    if codes.map Char.ofNat == image then some n else none
  match image with
  | [u] =>
    let ascii := if u.toNat < 128 then [u.toLower.toNat, u.toNat] else [u.toNat]
    ascii ++ upperRuns.filterMap (·.source? u.toNat) ++ long
  | _ => long

/-- Code points whose lower case is the given one. -/
def lowerSources (n : Nat) : List Nat :=
  let ascii := if n < 128 then [n, (Char.ofNat n).toUpper.toNat] else [n]
  let dotted := if n = 'i'.toNat then [0x130] else []
  ascii ++ dotted ++ lowerRuns.filterMap (·.source? n)

/-- Code points of the characters that differ from `c` in case only, `c` among them. -/
def caseVariants (c : Char) : List Nat :=
  ((upperSources (caseKey c)).flatMap lowerSources).filter fun n => sameButCase (Char.ofNat n) c

end NameTag
