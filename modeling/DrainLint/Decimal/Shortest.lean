import DrainLint.Decimal.Double

/-! # Shortest decimals

The decimal with the fewest digits that reads back as a double, and how it is written: positional
from 10^-4 up to 10^16, with an exponent of two digits or more outside.

- `shortest`: the digits and the place of the decimal point;
- `render`: the text of a double.
-/

namespace DrainLint.Decimal

/-- Digits `d₁ d₂ …` with a point: the number is `0.d₁d₂… · 10 ^ point`. -/
structure Digits where
  digits : List Char
  point : Int
  deriving DecidableEq

/-- A positive number as a ratio, with half the distance to its neighbours below and above over the
same denominator. -/
structure Interval where
  value : Nat
  below : Nat
  above : Nat
  den : Nat
  closed : Bool

def Interval.ofDouble (bits : Nat) : Interval :=
  let (significand, exponent) := Double.parts bits
  let lowest := bits % Double.twoTo 52 == 0 && Double.twoTo 53 ≤ bits
  let up := Double.twoTo exponent.toNat
  { value := 4 * significand * up
    below := if lowest then up else 2 * up
    above := 2 * up
    den := 4 * Double.twoTo (-exponent).toNat
    closed := significand % 2 == 0 }

/-- The least power of ten above a positive ratio, searched from an estimate. -/
def pointOf (num den : Nat) : Int :=
  let estimate : Int := (Double.digitCount num : Int) - Double.digitCount den
  let reached :=
    if 0 ≤ estimate then den * Double.tenTo estimate.toNat ≤ num
    else den ≤ num * Double.tenTo (-estimate).toNat
  if reached then estimate + 1 else estimate

def Interval.contains (interval : Interval) (num : Nat) : Bool :=
  if interval.closed then
    interval.value ≤ num + interval.below && num ≤ interval.value + interval.above
  else interval.value < num + interval.below && num < interval.value + interval.above

/-- The best number of so many digits in an interval: of the two neighbours on the grid, the one
inside, and of two inside the nearer; a tie goes to the even one. -/
def nearest? (interval : Interval) (point : Int) (count : Nat) : Option Nat :=
  let shift := point - count
  let scale := Double.tenTo (-shift).toNat
  let unit := Double.tenTo shift.toNat * interval.den
  let scaled : Interval :=
    { interval with
      value := interval.value * scale, below := interval.below * scale,
      above := interval.above * scale }
  let low := scaled.value / unit
  let lowFits := scaled.contains (low * unit)
  let highFits := scaled.contains ((low + 1) * unit)
  let distance := 2 * (scaled.value % unit)
  if lowFits && highFits then
    some (if distance < unit || (distance == unit && low % 2 == 0) then low else low + 1)
  else if lowFits then some low
  else if highFits then some (low + 1)
  else none

/-- The number of so many digits as digits with a point; a carry into a new digit moves the
point. -/
def Digits.ofNat (n : Nat) (count : Nat) (point : Int) : Digits :=
  let written := Nat.toDigits 10 n
  let kept := (written.reverse.dropWhile (· == '0')).reverse
  ⟨kept, point + ((written.length : Int) - count)⟩

/-- The shortest decimal of a positive finite double: the first count of digits that has a number in
the interval of the double. -/
def shortest (bits : Nat) : Digits :=
  let interval := Interval.ofDouble bits
  let point := pointOf interval.value interval.den
  match (List.range 17).findSome? fun fewer =>
      (nearest? interval point (fewer + 1)).map fun n => Digits.ofNat n (fewer + 1) point with
  | some digits => digits
  | none => ⟨['0'], 1⟩

def Digits.text (d : Digits) : String :=
  let count : Int := d.digits.length
  if -4 ≤ d.point - 1 ∧ d.point - 1 < 16 then
    if d.point ≤ 0 then
      String.ofList ("0.".toList ++ List.replicate (-d.point).toNat '0' ++ d.digits)
    else if count ≤ d.point then
      String.ofList (d.digits ++ List.replicate (d.point - count).toNat '0' ++ ".0".toList)
    else
      String.ofList (d.digits.take d.point.toNat ++ '.' :: d.digits.drop d.point.toNat)
  else
    let exponent := d.point - 1
    let size := Nat.toDigits 10 exponent.natAbs
    let mark := if exponent < 0 then "e-" else "e+"
    let tail :=
      match d.digits.drop 1 with
      | [] => []
      | rest => '.' :: rest
    String.ofList (d.digits.take 1 ++ tail ++ mark.toList ++
      List.replicate (2 - size.length) '0' ++ size)

def render (bits : Nat) : String :=
  if bits = 0 then "0.0"
  else if Double.infinity ≤ bits then "inf"
  else (shortest bits).text

end DrainLint.Decimal
