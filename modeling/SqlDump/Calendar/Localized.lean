import SqlDump.Calendar.Reader
import SqlDump.Error
import SqlDump.Text.Search

/-!
# Localized timestamps

Some dumps write timestamps as `19-8月 -25 10.30.00.000000000 下午`: day, month with its sign,
year of the century, a clock of twelve hours and the half of the day.  The signs are taken out
first; what remains is a skeleton of digits, dashes and points.
-/

namespace SqlDump
namespace Localized

open Calendar (readMark complete)

/-- The sign behind the number of a month. -/
def monthSign : Text := ['月']

/-- The sign for the hours before noon. -/
def morningSign : Text := ['上', '午']

/-- The sign for the hours after noon. -/
def afternoonSign : Text := ['下', '午']

/-- Whether the first character that is not white space is a dash. -/
def meetsDash (text : Text) : Bool :=
  text.trimStart.head? == some '-'

/-- A text without the white space around its dashes; `behindDash` tells that a dash stands
before it. -/
def tightenFrom (behindDash : Bool) : Text → Text
  | [] => []
  | char :: rest =>
    if Unicode.isWhiteSpace char && (behindDash || meetsDash rest) then
      tightenFrom behindDash rest
    else char :: tightenFrom (char == '-') rest

/-- A text with every run of white space written as one space, and none around dashes. -/
def tighten (text : Text) : Text :=
  tightenFrom false text.collapseSpaces

/-- Reads a run of digits whose length is allowed. -/
def readDigits (allows : Nat → Bool) (text : Text) : Option (Text × Text) :=
  let digits := text.takeWhile Char.isDigit
  if allows digits.length then some (digits, text.dropWhile Char.isDigit) else none

/-- Whether a number may have this many digits: one or two. -/
def isShort (length : Nat) : Bool :=
  length == 1 || length == 2

/-- Whether a year may have this many digits: two or four. -/
def isYearLength (length : Nat) : Bool :=
  length == 2 || length == 4

/-- Whether a fraction of a second may have this many digits: down to the nanosecond. -/
def isFractionLength (length : Nat) : Bool :=
  1 ≤ length && length ≤ 9

/-- The year that digits stand for: two digits name the year from 1950 to 2049. -/
def yearOfDigits (digits : Text) : Int :=
  let year := Digits.value digits
  if digits.length = 2 then if year < 50 then 2000 + year else 1900 + year else year

/-- Reads the optional fraction of a second, in nanoseconds. -/
def readFraction : Text → Option (Nat × Text)
  | [] => some (0, [])
  | mark :: rest =>
    if mark = '.' then
      (readDigits isFractionLength rest).map fun (digits, rest) =>
        (Digits.value (Digits.padRight 9 digits), rest)
    else none

/-- The timestamp a skeleton spells: `day-month-year hour.minute.second`, with a fraction behind
a further point or without. -/
def ofSkeleton? (skeleton : Text) : Option Timestamp := do
  let (day, text) ← readDigits isShort skeleton
  let text ← readMark '-' text
  let (month, text) ← readDigits isShort text
  let text ← readMark '-' text
  let (year, text) ← readDigits isYearLength text
  let text ← readMark ' ' text
  let (hour, text) ← readDigits isShort text
  let text ← readMark '.' text
  let (minute, text) ← readDigits isShort text
  let text ← readMark '.' text
  let (second, text) ← readDigits isShort text
  let (fraction, text) ← readFraction text
  let date ← Date.of? (yearOfDigits year) (Digits.value month) (Digits.value day)
  let time ← TimeOfDay.of? (Digits.value hour) (Digits.value minute) (Digits.value second) fraction
  complete (⟨date, time⟩, text)

/-- The time on a clock of 24 hours: an afternoon hour before twelve is moved behind noon, and
the twelfth hour of a morning to midnight. -/
def resolveHalf (morning afternoon : Bool) (time : TimeOfDay) : TimeOfDay :=
  if afternoon ∧ time.hour < 12 then time.inOtherHalf
  else if morning ∧ time.hour = 12 then time.inOtherHalf
  else time

/-- A text without the signs of a localized timestamp. -/
def withoutSigns (text : Text) : Text :=
  ((text.eraseAll monthSign).eraseAll afternoonSign).eraseAll morningSign

/-- The timestamp a localized text spells.  The skeleton is tried as it stands and then with its
white space tightened. -/
def parse (text : Text) : Except Error Timestamp :=
  let skeleton := (withoutSigns text).trim
  match (ofSkeleton? skeleton).or (ofSkeleton? (tighten skeleton)) with
  | some timestamp =>
    .ok { timestamp with
          time := resolveHalf (text.includes morningSign) (text.includes afternoonSign)
            timestamp.time }
  | none => .error (.unparseableTimestamp text)

end Localized
end SqlDump
