/-!
# Doubles

A double is a number of the IEEE 754 format binary64, kept as its 64 bits.  All arithmetic is
exact arithmetic on natural numbers followed by one rounding to the nearest double, where a tie
goes to the even significand.
-/

namespace SqlDump

/-- A number of the format binary64, by its bit pattern. -/
structure Binary64 where
  /-- Sign, biased exponent and fraction, from the highest bit down. -/
  bits : UInt64
  deriving DecidableEq, Repr, Inhabited

namespace Binary64

/-- The integer nearest to a quotient; a tie goes to the even neighbour. -/
def roundQuotient (numerator denominator : Nat) : Nat :=
  let quotient := numerator / denominator
  let twice := 2 * (numerator % denominator)
  if twice < denominator then quotient
  else if denominator < twice then quotient + 1
  else if quotient % 2 = 0 then quotient
  else quotient + 1

/-- A quotient of integers divided by a power of two, as a quotient again. -/
def divideByPowerOfTwo (numerator denominator : Nat) : Int → Nat × Nat
  | .ofNat power => (numerator, denominator * Nat.pow 2 power)
  | .negSucc power => (numerator * Nat.pow 2 (power + 1), denominator)

/-- Whether a quotient is at least a power of two. -/
def reachesPowerOfTwo (numerator denominator : Nat) (power : Int) : Bool :=
  let (numerator, denominator) := divideByPowerOfTwo numerator denominator power
  denominator ≤ numerator

/-- The greatest power of two that does not exceed a positive quotient, as an exponent. -/
def binaryExponent (numerator denominator : Nat) : Int :=
  let estimate : Int := (numerator.log2 : Int) - denominator.log2
  if reachesPowerOfTwo numerator denominator estimate then estimate else estimate - 1

/-- Number of different fractions of a significand. -/
def fractionCount : Nat := 0x10000000000000

/-- The bit pattern of positive infinity. -/
def infinityBits : Nat := 0x7FF0000000000000

/-- The bit that is set in negative numbers. -/
def signBit : Nat := 0x8000000000000000

/-- The bits, sign aside, of the double nearest to a non-negative quotient: infinity when the
quotient is too large. -/
def magnitudeBits (numerator denominator : Nat) : Nat :=
  if numerator = 0 then 0
  else
    let unit : Int := max (binaryExponent numerator denominator - 52) (-1074)
    let (numerator, denominator) := divideByPowerOfTwo numerator denominator unit
    let significand := roundQuotient numerator denominator
    min ((unit + 1074).toNat * fractionCount + significand) infinityBits

/-- The double with a sign and the bits of a magnitude. -/
def ofMagnitude (negative : Bool) (magnitude : Nat) : Binary64 :=
  ⟨UInt64.ofNat (if negative then signBit + magnitude else magnitude)⟩

/-- The double nearest to a quotient with a sign. -/
def ofRatio (negative : Bool) (numerator denominator : Nat) : Binary64 :=
  ofMagnitude negative (magnitudeBits numerator denominator)

/-- The double nearest to a natural number. -/
def ofNat (number : Nat) : Binary64 :=
  ofRatio false number 1

/-- The bits without the sign. -/
def magnitude (number : Binary64) : Nat :=
  number.bits.toNat % signBit

/-- Whether the sign bit is set. -/
def isNegative (number : Binary64) : Bool :=
  signBit ≤ number.bits.toNat

/-- Whether the number is a zero of either sign. -/
def isZero (number : Binary64) : Bool :=
  number.magnitude == 0

/-- Whether the number is neither an infinity nor undefined. -/
def isFinite (number : Binary64) : Bool :=
  number.magnitude < infinityBits

/-- The number with the opposite sign. -/
def negate (number : Binary64) : Binary64 :=
  ofMagnitude (!number.isNegative) number.magnitude

/-- The integer a finite magnitude is a multiple of its unit by. -/
def significand (number : Binary64) : Nat :=
  let fraction := number.magnitude % fractionCount
  if number.magnitude / fractionCount = 0 then fraction else fractionCount + fraction

/-- The exponent of the power of two that is the unit of a finite magnitude. -/
def unitExponent (number : Binary64) : Int :=
  max (number.magnitude / fractionCount : Nat) 1 - 1075

/-- The magnitude of a finite number as an exact quotient. -/
def ratio (number : Binary64) : Nat × Nat :=
  divideByPowerOfTwo number.significand 1 (-number.unitExponent)

/-- The product of two finite numbers, rounded. -/
def multiply (left right : Binary64) : Binary64 :=
  ofRatio (left.isNegative != right.isNegative)
    (left.ratio.1 * right.ratio.1) (left.ratio.2 * right.ratio.2)

/-- The quotient of a finite number by a finite number other than zero, rounded. -/
def divide (left right : Binary64) : Binary64 :=
  ofRatio (left.isNegative != right.isNegative)
    (left.ratio.1 * right.ratio.2) (left.ratio.2 * right.ratio.1)

end Binary64
end SqlDump
