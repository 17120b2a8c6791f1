import SqlDump.Numeric.Digits

/-!
# 64-bit integers in texts

An integer is written in decimal, with an optional sign in front.
-/

namespace SqlDump
namespace Integer

/-- The signed integers of 64 bits. -/
def FitsInt64 (value : Int) : Prop :=
  -9223372036854775808 ≤ value ∧ value ≤ 9223372036854775807

instance (value : Int) : Decidable (FitsInt64 value) :=
  inferInstanceAs (Decidable (_ ∧ _))

/-- The sign in front of a number, true for minus, and the text behind it. -/
def splitSign : Text → Bool × Text
  | '-' :: rest => (true, rest)
  | '+' :: rest => (false, rest)
  | text => (false, text)

/-- The number with a sign and a magnitude. -/
def signed (negative : Bool) (magnitude : Nat) : Int :=
  if negative then -(magnitude : Int) else magnitude

/-- The 64-bit integer a text stands for. -/
def ofText? (text : Text) : Option Int :=
  let (negative, digits) := splitSign text
  if digits = [] ∨ ¬ digits.all Char.isDigit then none
  else
    let value := signed negative (Digits.value digits)
    if FitsInt64 value then some value else none

/-- An integer in decimal, with a sign when it is negative. -/
def toText (value : Int) : Text :=
  if value < 0 then '-' :: Digits.ofNat value.natAbs else Digits.ofNat value.natAbs

end Integer
end SqlDump
