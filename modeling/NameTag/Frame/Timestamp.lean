import NameTag.Number.Integer

/-!
# Timestamps

The text of a timestamp is read as up to six numbers: year, month, day, hour, minute, second. The parts
stand between `-`, `T`, `:`, `/`, `.` and blanks; the first part that is no number ends the timestamp.
It is written back with four digits for the year and two for each other part.
-/

namespace NameTag.Timestamp

def isSeparator (c : Char) : Bool :=
  c == '-' || c == 'T' || c == ':' || c == '/' || c == '.'

/-- The parts between separators; several blanks in a row separate once. `current` holds the part so
far, last character first, and `afterBlank` says that a blank has just ended a part. -/
def parts (current : Text) (afterBlank : Bool) : Text → List Text
  | [] => [current.reverse]
  | c :: rest =>
    if isBlank c then
      if afterBlank then parts current true rest else current.reverse :: parts [] true rest
    else if isSeparator c then current.reverse :: parts [] false rest
    else parts (c :: current) false rest

/-- The numbers up to the first part that is none. -/
def numbers : List Text → List Int
  | [] => []
  | part :: rest =>
    match Text.readInteger part with
    | .ok n => n :: numbers rest
    | .error _ => []

/-- What is written before each part. -/
def leads : List Text :=
  ["".toList, "-".toList, "-".toList, " ".toList, ":".toList, ":".toList]

/-- How many digits each part has at least. -/
def widths : List Nat :=
  [4, 2, 2, 2, 2, 2]

def write (ns : List Int) : Text :=
  ((leads.zip widths).zip ns).flatMap fun ((lead, width), n) =>
    lead ++ Text.ofNatPadded width n.natAbs

/-- The timestamp as it is written back. -/
def normalize (t : Text) : Text :=
  write (numbers ((parts [] false t).take leads.length))

end NameTag.Timestamp
