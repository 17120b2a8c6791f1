import SqlDump.Json.Value
import SqlDump.Numeric.Integer
import SqlDump.Numeric.Shortest
import SqlDump.Text.Search

/-!
# Printing JSON

A value is printed without blanks.  The members of an object are ordered by name, and of members
with the same name only the last is printed.
-/

namespace SqlDump
namespace Json

/-- A digit of the hexadecimal system, in lower case. -/
def hexDigit (value : Nat) : Char :=
  Nat.digitChar value

/-- A character inside a string: quotes, backslashes and controls are escaped. -/
def escaped (char : Char) : Text :=
  if char = '"' then ['\\', '"']
  else if char = '\\' then ['\\', '\\']
  else if char = '\x08' then ['\\', 'b']
  else if char = '\x0c' then ['\\', 'f']
  else if char = '\n' then ['\\', 'n']
  else if char = '\r' then ['\\', 'r']
  else if char = '\t' then ['\\', 't']
  else if char.toNat < 0x20 then
    ['\\', 'u', '0', '0', hexDigit (char.toNat / 16), hexDigit (char.toNat % 16)]
  else [char]

/-- A string in quotes. -/
def stringText (text : Text) : Text :=
  '"' :: (text.flatMap escaped ++ ['"'])

/-- The exponent of a number written as digits times a power of ten, always with its sign. -/
def exponentText (exponent : Int) : Text :=
  'e' :: (if exponent < 0 then '-' else '+') :: Digits.ofNat exponent.natAbs

/-- A positive decimal number `multiple * 10 ^ exponent`.  The point is written in place when it
falls among the first sixteen digits or follows at most four zeros; other numbers are written
with an exponent. -/
def decimalText (multiple : Nat) (exponent : Int) : Text :=
  let digits := Digits.ofNat multiple
  let point : Int := digits.length + exponent
  if 0 ≤ exponent ∧ point ≤ 16 then
    digits ++ List.replicate exponent.toNat '0' ++ ['.', '0']
  else if 0 < point ∧ point ≤ 16 then
    digits.take point.toNat ++ '.' :: digits.drop point.toNat
  else if -5 < point ∧ point ≤ 0 then
    '0' :: '.' :: (List.replicate point.natAbs '0' ++ digits)
  else
    let behind := digits.drop 1
    digits.take 1 ++ (if behind.isEmpty then [] else '.' :: behind) ++ exponentText (point - 1)

/-- A finite double in its shortest form. -/
def doubleText (number : Binary64) : Text :=
  let magnitude :=
    if number.isZero then ['0', '.', '0']
    else decimalText number.shortest.1 number.shortest.2
  if number.isNegative then '-' :: magnitude else magnitude

/-- Puts a printed member into a list ordered by name, in place of one with the same name. -/
def insertMember (name : Text) (printed : Text) : List (Text × Text) → List (Text × Text)
  | [] => [(name, printed)]
  | (other, text) :: rest =>
    if name = other then (name, printed) :: rest
    else if name < other then (name, printed) :: (other, text) :: rest
    else (other, text) :: insertMember name printed rest

/-- The members of an object ordered by name, the last of each name. -/
def orderMembers (members : List (Text × Text)) : List (Text × Text) :=
  members.foldl (fun ordered member => insertMember member.1 member.2 ordered) []

mutual

/-- A value in compact form. -/
def toText : Json → Text
  | .null => ['n', 'u', 'l', 'l']
  | .bool true => ['t', 'r', 'u', 'e']
  | .bool false => ['f', 'a', 'l', 's', 'e']
  | .integer value => Integer.toText value
  | .double value => doubleText value
  | .string text => stringText text
  | .array items => '[' :: (List.intercalate [','] (itemTexts items) ++ [']'])
  | .object members =>
    let printed := (orderMembers (memberTexts members)).map fun member =>
      stringText member.1 ++ ':' :: member.2
    '\x7b' :: (List.intercalate [','] printed ++ ['\x7d'])

/-- The items of an array in compact form. -/
def itemTexts : List Json → List Text
  | [] => []
  | item :: rest => toText item :: itemTexts rest

/-- The values of the members of an object in compact form. -/
def memberTexts : List (Text × Json) → List (Text × Text)
  | [] => []
  | (name, value) :: rest => (name, toText value) :: memberTexts rest

end

end Json
end SqlDump
