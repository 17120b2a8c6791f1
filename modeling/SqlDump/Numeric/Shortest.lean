import SqlDump.Numeric.Binary64
import SqlDump.Numeric.Digits

/-!
# Shortest decimal forms of doubles

Among the decimal numbers that round to a given double, the shortest form is the one with the
coarsest unit; of several with that unit it is the nearest to the double, and of two equally near
ones the even one.
-/

namespace SqlDump
namespace Binary64

/-- The decimal numbers that round to a positive finite double, together with the double itself,
as multiples of a common unit, a power of two. -/
structure Neighbourhood where
  /-- The lower end. -/
  lower : Nat
  /-- The double. -/
  centre : Nat
  /-- The upper end. -/
  upper : Nat
  /-- Whether the ends round to the double. -/
  closed : Bool
  /-- The exponent of the unit. -/
  unit : Int
  deriving DecidableEq, Repr

/-- The decimal numbers that round to a positive finite double.  Below a power of two the
doubles are twice as dense as above it. -/
def neighbourhood (number : Binary64) : Neighbourhood :=
  let significand := number.significand
  let lowestOfBinade := number.magnitude % fractionCount = 0 ∧ 1 < number.magnitude / fractionCount
  { lower := 4 * significand - (if lowestOfBinade then 1 else 2)
    centre := 4 * significand
    upper := 4 * significand + 2
    closed := significand % 2 == 0
    unit := number.unitExponent - 2 }

namespace Neighbourhood

/-- Whether a quotient of multiples of the unit rounds to the double. -/
def contains (around : Neighbourhood) (numerator denominator : Nat) : Bool :=
  if around.closed then
    around.lower * denominator ≤ numerator && numerator ≤ around.upper * denominator
  else
    around.lower * denominator < numerator && numerator < around.upper * denominator

/-- A power of ten, as a quotient of multiples of the unit. -/
def powerOfTen (around : Neighbourhood) (exponent : Int) : Nat × Nat :=
  let (numerator, denominator) := divideByPowerOfTwo 1 1 around.unit
  match exponent with
  | .ofNat power => (numerator * Nat.pow 10 power, denominator)
  | .negSucc power => (numerator, denominator * Nat.pow 10 (power + 1))

/-- The multiple of a power of ten that is the best decimal form with that unit, if one of the
two next to the double rounds to it. -/
def nearest? (around : Neighbourhood) (exponent : Int) : Option Nat :=
  let (numerator, denominator) := around.powerOfTen exponent
  let below := around.centre * denominator / numerator
  let belowFits := around.contains (below * numerator) denominator
  let aboveFits := around.contains ((below + 1) * numerator) denominator
  let toBelow := around.centre * denominator - below * numerator
  let toAbove := (below + 1) * numerator - around.centre * denominator
  if belowFits && aboveFits then
    if toBelow < toAbove then some below
    else if toAbove < toBelow then some (below + 1)
    else if below % 2 = 0 then some below
    else some (below + 1)
  else if belowFits then some below
  else if aboveFits then some (below + 1)
  else none

/-- The best decimal form whose unit is the coarsest possible, from `exponent` on downwards
through `count` powers of ten; the unit is returned with it. -/
def shortestFrom (around : Neighbourhood) (exponent : Int) : (count : Nat) → Nat × Int
  | 0 => (0, exponent)
  | count + 1 =>
    match around.nearest? exponent with
    | some multiple => (multiple, exponent)
    | none => around.shortestFrom (exponent - 1) count

end Neighbourhood

/-- The shortest decimal form of a positive finite double, as an integer and the power of ten it
is multiplied by.  All doubles lie between the 309th and the -324th power of ten. -/
def shortest (number : Binary64) : Nat × Int :=
  number.neighbourhood.shortestFrom 309 700

end Binary64
end SqlDump
