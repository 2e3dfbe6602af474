/-! # Doubles

Binary floating point numbers of 64 bits, as the bits of a number that is not negative.

- `Double.ofRatio`: the double nearest to a ratio, ties to the even significand;
- `Double.ofDecimal`: the double nearest to a decimal;
- `Double.parts`: the significand and the exponent of a finite double.
-/

namespace DrainLint.Decimal.Double

/-- The bits of infinity; the finite doubles are the smaller numbers. -/
def infinity : Nat := 0x7FF0000000000000

def twoTo (exponent : Nat) : Nat := Nat.pow 2 exponent

def tenTo (exponent : Nat) : Nat := Nat.pow 10 exponent

/-- The quotient of two numbers, rounded to the nearest, a tie to the even one. -/
def roundQuotient (num den : Nat) : Nat :=
  let quotient := num / den
  let twice := 2 * (num % den)
  if twice > den || (twice == den && quotient % 2 == 1) then quotient + 1 else quotient

/-- The ratio of two numbers in units of a power of two, rounded. -/
def significandAt (num den : Nat) (exponent : Int) : Nat :=
  if 0 ≤ exponent then roundQuotient num (den * twoTo exponent.toNat)
  else roundQuotient (num * twoTo (-exponent).toNat) den

/-- The power of two by which the ratio has a significand of 53 bits, but no less than the power of
the smallest double. -/
def exponentFor (num den : Nat) : Int :=
  let estimate : Int := (num.log2 : Int) - den.log2 - 52
  let fits :=
    if 0 ≤ estimate then num < den * twoTo estimate.toNat * twoTo 52
    else num * twoTo (-estimate).toNat < den * twoTo 52
  max (-1074) (if fits then estimate - 1 else estimate)

/-- The double nearest to a ratio, by its bits. -/
def ofRatio (num den : Nat) : Nat :=
  if num = 0 then 0
  else
    let exponent := exponentFor num den
    -- A significand that is rounded up to 54 bits carries into the exponent, as it should.
    min infinity ((exponent + 1074).toNat * twoTo 52 + significandAt num den exponent)

def digitCount (n : Nat) : Nat := (Nat.toDigits 10 n).length

/-- The double nearest to a decimal.  A decimal far out of range is decided by its magnitude. -/
def ofDecimal (mantissa : Nat) (exponent : Int) : Nat :=
  if mantissa = 0 then 0
  else
    let magnitude := exponent + digitCount mantissa
    if 310 < magnitude then infinity
    else if magnitude < -330 then 0
    else if 0 ≤ exponent then ofRatio (mantissa * tenTo exponent.toNat) 1
    else ofRatio mantissa (tenTo (-exponent).toNat)

def parts (bits : Nat) : Nat × Int :=
  let field : Nat := bits / twoTo 52
  let fraction : Nat := bits % twoTo 52
  if field = 0 then (fraction, -1074) else (fraction + twoTo 52, (field : Int) - 1075)

end DrainLint.Decimal.Double
