import NameTag.Text.Digit

/-!
# Floating-point numbers

A number of 64 bits: a sign, eleven bits of exponent and 52 bits of fraction. It stands for
`mantissa * 2 ^ (exponent - 1074)`, with the sign. `shortestDigits` gives the fewest decimal digits that
read back as the number: it tries one digit, two digits and so on, and takes the nearest decimal
that lies in the interval of reals rounding to the number.
-/

namespace NameTag

structure Binary64 where
  bits : UInt64
  deriving DecidableEq, Repr

namespace Binary64

def isNegative (x : Binary64) : Bool :=
  x.bits >>> 63 == 1

/-- The eleven bits of the exponent. -/
def biased (x : Binary64) : Nat :=
  ((x.bits >>> 52) &&& 0x7ff).toNat

/-- The 52 bits of the fraction. -/
def fraction (x : Binary64) : Nat :=
  (x.bits &&& 0xfffffffffffff).toNat

def isInfinite (x : Binary64) : Bool :=
  x.biased == 0x7ff && x.fraction == 0

def isNotANumber (x : Binary64) : Bool :=
  x.biased == 0x7ff && x.fraction != 0

def mantissa (x : Binary64) : Nat :=
  if x.biased = 0 then x.fraction else x.fraction + Nat.pow 2 52

/-- The power of two above the smallest one. -/
def exponent (x : Binary64) : Nat :=
  x.biased - 1

/-- The exact value; an infinite number counts as the power of two that its bits spell. -/
def toRat (x : Binary64) : Rat :=
  let size : Rat := (x.mantissa * Nat.pow 2 x.exponent : Nat) / (Nat.pow 2 1074 : Nat)
  if x.isNegative then -size else size

/-! ## Shortest decimals -/

/-- The number of decimal digits of `n`. -/
def digitCount (n : Nat) : Nat :=
  (Nat.toDigits 10 n).length

/-- Four times the number, over a common denominator, between the ends of its interval. -/
structure Interval where
  low : Nat
  middle : Nat
  high : Nat
  denominator : Nat
  closed : Bool

/-- The reals that round to the number: half way to its neighbours on both sides. The ends belong to
it if the mantissa is even; below a power of two the neighbour is half as far away. -/
def interval (x : Binary64) : Interval :=
  let m := x.mantissa
  let below := if x.fraction = 0 ∧ 1 < x.biased then 1 else 2
  { low := (4 * m - below) * Nat.pow 2 x.exponent
    middle := 4 * m * Nat.pow 2 x.exponent
    high := (4 * m + 2) * Nat.pow 2 x.exponent
    denominator := 4 * Nat.pow 2 1074
    closed := m % 2 = 0 }

/-- The decimal `digits * 10 ^ power` as a multiple of the interval's unit, both scaled by the
denominators of a negative power. -/
def Interval.holds (i : Interval) (digits : Nat) (power : Int) : Bool :=
  let up := Nat.pow 10 power.toNat
  let down := Nat.pow 10 (-power).toNat
  let value := digits * up * i.denominator
  if i.closed then i.low * down ≤ value && value ≤ i.high * down
  else i.low * down < value && value < i.high * down

/-- The nearer of the two neighbours of the number on the grid `10 ^ power` that lie in the interval;
an even last digit if both are equally near. -/
def Interval.nearest? (i : Interval) (power : Int) : Option Nat :=
  let up := Nat.pow 10 power.toNat
  let down := Nat.pow 10 (-power).toNat
  let numerator := i.middle * down
  let unit := up * i.denominator
  let floor := numerator / unit
  let rest := 2 * (numerator % unit)
  let roundsUp := unit < rest || (rest == unit && floor % 2 == 1)
  let first := if roundsUp then floor + 1 else floor
  let second := if roundsUp then floor else floor + 1
  if 0 < first && i.holds first power then some first
  else if 0 < second && i.holds second power then some second
  else none

/-- The fewest digits, and the power of ten they count, of a number that is not zero. -/
def shortestDigits (x : Binary64) : Nat × Int :=
  let i := x.interval
  -- `10 ^ (magnitude - 1) ≤ value < 10 ^ magnitude`, or one less
  let magnitude : Int :=
    if i.denominator ≤ i.middle then digitCount (i.middle / i.denominator)
    else 1 - digitCount (i.denominator / i.middle)
  let grids := (List.range 19).map fun (k : Nat) => magnitude + 1 - k
  match grids.findSome? fun power => (i.nearest? power).map fun digits => (digits, power) with
  | some found => found
  | none => (x.mantissa, 0)

/-! ## Text -/

/-- Digits with the point after the first `place` of them; at least one digit stands on each side. -/
def withPoint (digits : Text) (place : Int) : Text :=
  if place ≤ 0 then '0' :: '.' :: List.replicate (-place).toNat '0' ++ digits
  else if digits.length ≤ place then
    digits ++ List.replicate (place.toNat - digits.length) '0' ++ ['.', '0']
  else digits.take place.toNat ++ '.' :: digits.drop place.toNat

/-- One digit before the point, the others after it, and the power of ten with a sign and at least
two digits. -/
def withExponent (digits : Text) (place : Int) : Text :=
  let power := place - 1
  let sign := if power < 0 then '-' else '+'
  let mantissa := match digits with
    | first :: (next :: rest) => first :: '.' :: next :: rest
    | digits => digits
  mantissa ++ 'e' :: sign :: Text.ofNatPadded 2 power.natAbs

/-- Powers of ten from 10⁻⁴ to below 10¹⁶ are written with a point, others with an exponent. -/
def toText (x : Binary64) : Text :=
  if x.isNotANumber then "nan".toList
  else
    let sign := if x.isNegative then ['-'] else []
    if x.isInfinite then sign ++ "inf".toList
    else if x.mantissa = 0 then sign ++ "0.0".toList
    else
      let (number, power) := x.shortestDigits
      let written := Text.ofNat number
      let place := written.length + power
      -- zeros at the end only shift the power
      let digits := (written.reverse.dropWhile (· == '0')).reverse
      sign ++ if -4 < place ∧ place ≤ 16 then withPoint digits place else withExponent digits place

end Binary64

end NameTag
