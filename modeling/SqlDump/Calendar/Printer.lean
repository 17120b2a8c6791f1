import SqlDump.Calendar.Timestamp
import SqlDump.Numeric.Digits

/-!
# Writing dates and timestamps

A date is written `year-month-day`, a timestamp with the time `hour:minute:second.nanoseconds`
behind a space.  Years from 0 to 9999 have four digits; all others have a sign and at least
four.  A leap second is written as second 60.
-/

namespace SqlDump

/-- A year in digits, with a sign when it does not lie between 0 and 9999. -/
def yearText (year : Int) : Text :=
  let digits := Digits.padLeft 4 (Digits.ofNat year.natAbs)
  if year < 0 then '-' :: digits
  else if 9999 < year then '+' :: digits
  else digits

/-- A number in two digits at least. -/
def twoDigits (number : Nat) : Text :=
  Digits.padLeft 2 (Digits.ofNat number)

namespace Date

/-- A date in the form `year-month-day`. -/
def toText (date : Date) : Text :=
  yearText date.year ++ '-' :: twoDigits date.month ++ '-' :: twoDigits date.day

end Date

namespace TimeOfDay

/-- Whether the time lies in a leap second. -/
def isLeapSecond (time : TimeOfDay) : Bool :=
  nanosecondsPerSecond ≤ time.nanosecond

/-- A time in the form `hour:minute:second.nanoseconds`, with nine digits behind the point. -/
def toText (time : TimeOfDay) : Text :=
  twoDigits time.hour ++ ':' :: twoDigits time.minute ++
    ':' :: twoDigits (if time.isLeapSecond then time.second + 1 else time.second) ++
    '.' :: Digits.padLeft 9 (Digits.ofNat (time.nanosecond % nanosecondsPerSecond))

end TimeOfDay

namespace Timestamp

/-- A timestamp as its date and its time with a space between them. -/
def toText (timestamp : Timestamp) : Text :=
  timestamp.date.toText ++ ' ' :: timestamp.time.toText

end Timestamp
end SqlDump
