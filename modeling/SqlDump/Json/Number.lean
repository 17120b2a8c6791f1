import SqlDump.Json.Value
import SqlDump.Numeric.Integer

/-!
# Numbers of JSON

A number is an optional minus, digits without a superfluous leading zero, an optional fraction
and an optional exponent.  A number without fraction and exponent that fits 64 bits is an integer.
Every other number is gathered in a 64-bit significand and a power of ten, and then scaled.
-/

namespace SqlDump
namespace Json

/-- The parts of a number. -/
structure NumberText where
  /-- Whether a minus stands in front. -/
  negative : Bool
  /-- The digits in front of the point. -/
  whole : Text
  /-- The digits behind the point, none if there is no point. -/
  fraction : Option Text
  /-- The exponent, if there is one. -/
  exponent : Option Int
  deriving DecidableEq, Repr

namespace NumberText

/-- The exponent spelled by the end of a number, which may be empty. -/
def exponentOf? : Text → Option (Option Int)
  | [] => some none
  | mark :: rest =>
    let (negative, digits) := Integer.splitSign rest
    if (mark = 'e' ∨ mark = 'E') ∧ digits ≠ [] ∧ digits.all Char.isDigit then
      some (some (Integer.signed negative (Digits.value digits)))
    else none

/-- Whether digits may stand in front of a point: a zero is followed by no further digit. -/
def isWhole : Text → Bool
  | [] => false
  | ['0'] => true
  | first :: _ => first != '0'

/-- The parts of the number a text spells. -/
def ofText? (text : Text) : Option NumberText :=
  let negative := text.head? == some '-'
  let body := if negative then text.tail else text
  let whole := body.takeWhile Char.isDigit
  if !isWhole whole then none
  else
    match body.dropWhile Char.isDigit with
    | '.' :: behind =>
      let fraction := behind.takeWhile Char.isDigit
      if fraction.isEmpty then none
      else
        (exponentOf? (behind.dropWhile Char.isDigit)).map fun exponent =>
          { negative, whole, fraction := some fraction, exponent }
    | tail =>
      (exponentOf? tail).map fun exponent => { negative, whole, fraction := none, exponent }

/-- Number of different values of a significand. -/
def significandLimit : Nat := 0x10000000000000000

/-- Appends digits to a significand as long as it stays below the limit; returns the number of
digits left over. -/
def gather (significand : Nat) : Text → Nat × Nat
  | [] => (significand, 0)
  | digit :: rest =>
    let extended := 10 * significand + Digits.value [digit]
    if extended < significandLimit then gather extended rest
    else (significand, rest.length + 1)

/-- A finite double times a power of ten, where doubles stand in for the powers of ten and powers
beyond the 308th are applied in steps.  No double stands for a result that is too large. -/
def scale (significand : Nat) (exponent : Int) : Option Binary64 :=
  let number := Binary64.ofNat significand
  let power (count : Nat) : Binary64 := Binary64.ofNat (Nat.pow 10 count)
  if significand = 0 then some number
  else if 308 < exponent then none
  else if 0 ≤ exponent then
    let scaled := number.multiply (power exponent.toNat)
    if scaled.isFinite then some scaled else none
  else if -308 ≤ exponent then some (number.divide (power exponent.natAbs))
  else if -616 ≤ exponent then
    some ((number.divide (power 308)).divide (power (exponent.natAbs - 308)))
  else some (Binary64.ofNat 0)

/-- The double a number stands for, if it is not too large. -/
def double? (number : NumberText) : Option Binary64 :=
  let (whole, wholeLeft) := gather 0 number.whole
  let fraction := number.fraction.getD []
  let (significand, fractionLeft) := gather whole fraction
  let point : Int := (wholeLeft : Int) - ((fraction.length - fractionLeft : Nat) : Int)
  (scale significand (point + number.exponent.getD 0)).map fun magnitude =>
    if number.negative then magnitude.negate else magnitude

/-- The value of a number.  A zero with a minus is a double. -/
def value? (number : NumberText) : Option Json :=
  if number.fraction.isNone ∧ number.exponent.isNone then
    let magnitude := Digits.value number.whole
    let value := Integer.signed number.negative magnitude
    if (number.negative = false ∧ magnitude < significandLimit) ∨
        (value < 0 ∧ Integer.FitsInt64 value) then
      some (.integer value)
    else number.double?.map .double
  else number.double?.map .double

end NumberText

/-- The number a text spells, if it is one and not too large. -/
def numberOfText? (text : Text) : Option Json :=
  (NumberText.ofText? text).bind NumberText.value?

end Json
end SqlDump
