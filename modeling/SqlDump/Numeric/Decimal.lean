import SqlDump.Numeric.Binary64
import SqlDump.Numeric.Integer

/-!
# Decimal numbers

A decimal number is a signed integer times a power of ten.  In a text it is a run of digits,
with at most one point before, among or behind them, and an optional exponent.
-/

namespace SqlDump

/-- The number `significand * 10 ^ exponent` with a sign, which a zero has too. -/
structure Decimal where
  /-- Whether the sign is minus. -/
  negative : Bool
  /-- The digits, read as one integer. -/
  significand : Nat
  /-- The power of ten of the last digit. -/
  exponent : Int
  deriving DecidableEq, Repr, Inhabited

namespace Decimal

/-- The exponent a text spells behind the digits; no text spells zero. -/
def exponentOfText? : Text → Option Int
  | [] => some 0
  | mark :: rest =>
    let (negative, digits) := Integer.splitSign rest
    if (mark = 'e' ∨ mark = 'E') ∧ digits ≠ [] ∧ digits.all Char.isDigit then
      some (Integer.signed negative (Digits.value digits))
    else none

/-- The decimal number a text spells; a run of digits needs one digit at least. -/
def ofText? (text : Text) : Option Decimal :=
  let (negative, body) := Integer.splitSign text
  let whole := body.takeWhile Char.isDigit
  let behind := body.dropWhile Char.isDigit
  let (fraction, tail) :=
    match behind with
    | '.' :: rest => (rest.takeWhile Char.isDigit, rest.dropWhile Char.isDigit)
    | _ => ([], behind)
  if whole = [] ∧ fraction = [] then none
  else
    (exponentOfText? tail).map fun exponent =>
      { negative
        significand := Digits.value (whole ++ fraction)
        exponent := exponent - fraction.length }

/-- The double nearest to a decimal number.  A magnitude of more than 400 digits in front of the
point is infinite, and one that starts more than 400 digits behind it is zero. -/
def toBinary64 (number : Decimal) : Binary64 :=
  let size : Int := number.exponent + (Digits.ofNat number.significand).length
  if number.significand = 0 then .ofMagnitude number.negative 0
  else if 400 < size then .ofMagnitude number.negative Binary64.infinityBits
  else if size < -400 then .ofMagnitude number.negative 0
  else
    match number.exponent with
    | .ofNat power => .ofRatio number.negative (number.significand * Nat.pow 10 power) 1
    | .negSucc power => .ofRatio number.negative number.significand (Nat.pow 10 (power + 1))

end Decimal
end SqlDump
