import NameTag.Text.Blank
import NameTag.Text.Digit
import NameTag.Text.Quoted

/-!
# Reading integers

An integer is written with blanks around it, a sign, and decimal digits of any script, single
underscores between them. The separator controls 1C to 1F are no blanks here.
-/

namespace NameTag

inductive IntegerError
  | malformed (written : Text)
  | tooLong (digits : Nat)
  deriving DecidableEq, Repr

/-- The most digits that are read. -/
def maxIntegerDigits : Nat := 4300

/-- The most characters of a malformed number that a message quotes. -/
def maxQuotedLength : Nat := 200

def IntegerError.message : IntegerError → Text
  | .malformed written =>
    "invalid literal for int() with base 10: ".toList ++ (Text.quoted written).take maxQuotedLength
  | .tooLong digits =>
    let limit := Text.ofNat maxIntegerDigits
    "Exceeds the limit (".toList ++ limit
      ++ " digits) for integer string conversion: value has ".toList ++ Text.ofNat digits
      ++ " digits; use sys.set_int_max_str_digits() to increase the limit".toList

namespace Text

def isIntegerBlank (c : Char) : Bool :=
  isBlank c && !(decide ('\x1c' ≤ c) && decide (c ≤ '\x1f'))

/-- The digits that a text begins with, single underscores between them left out, and what follows.
There must be a digit, and an underscore must have one after it. -/
def leadingDigits? : Text → Option (Text × Text)
  | [] => none
  | c :: rest =>
    if !isDecimalDigit c then none
    else
      match rest with
      | '_' :: more => (leadingDigits? more).map fun (ds, after) => (c :: ds, after)
      | d :: more =>
        if isDecimalDigit d then (leadingDigits? (d :: more)).map fun (ds, after) => (c :: ds, after)
        else some ([c], rest)
      | [] => some ([c], [])

/-- Reads a number that is written in digits. Too many digits are refused whatever follows them. -/
def readNatural (written digits : Text) : Except IntegerError Nat :=
  match leadingDigits? digits with
  | none => .error (.malformed written)
  | some (ds, after) =>
    if maxIntegerDigits < ds.length then .error (.tooLong ds.length)
    else if after.isEmpty then .ok (decimalValue ds)
    else .error (.malformed written)

def readInteger (t : Text) : Except IntegerError Int :=
  let bare := ((t.dropWhile isIntegerBlank).reverse.dropWhile isIntegerBlank).reverse
  match bare with
  | '-' :: digits => (readNatural t digits).map fun n => -(n : Int)
  | '+' :: digits => (readNatural t digits).map fun n => (n : Int)
  | digits => (readNatural t digits).map fun n => (n : Int)

end Text

end NameTag
