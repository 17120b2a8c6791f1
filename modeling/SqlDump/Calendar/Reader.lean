import SqlDump.Calendar.Timestamp
import SqlDump.Numeric.Integer
import SqlDump.Text.Trim

/-!
# Reading dates and timestamps

Dates are read in the form `year-month-day`, timestamps with a time
`hour:minute:second.fraction` behind white space or a capital T.  White space may precede every
number.  A reader takes a part off the front of a text and returns what follows it.
-/

namespace SqlDump
namespace Calendar

/-- Reads a number of at most `limit` digits behind white space. -/
def readNumber (limit : Nat) (text : Text) : Option (Nat × Text) :=
  match Digits.span limit text.trimStart with
  | ([], _) => none
  | (digit :: digits, rest) => some (Digits.value (digit :: digits), rest)

/-- Reads a year behind white space: at most four digits, or a sign and any number of digits. -/
def readYear (text : Text) : Option (Int × Text) :=
  let body := text.trimStart
  let (negative, unsigned) := Integer.splitSign body
  let limit := if unsigned.length < body.length then unsigned.length else 4
  match Digits.span limit unsigned with
  | ([], _) => none
  | (digit :: digits, rest) => some (Integer.signed negative (Digits.value (digit :: digits)), rest)

/-- Reads one given character. -/
def readMark (mark : Char) : Text → Option Text
  | [] => none
  | char :: rest => if char = mark then some rest else none

/-- Reads a fraction of a second in nanoseconds: a point with at least one digit behind it, or
nothing.  Digits behind the ninth have no effect. -/
def readFraction : Text → Option (Nat × Text)
  | '.' :: rest =>
    match Digits.span 9 rest with
    | ([], _) => none
    | (digit :: digits, further) =>
      some (Digits.value (Digits.padRight 9 (digit :: digits)), further.dropWhile Char.isDigit)
  | text => some (0, text)

/-- Reads a date. -/
def readDate (text : Text) : Option (Date × Text) := do
  let (year, text) ← readYear text
  let text ← readMark '-' text
  let (month, text) ← readNumber 2 text
  let text ← readMark '-' text
  let (day, text) ← readNumber 2 text
  let date ← Date.of? year month day
  pure (date, text)

/-- The time of day at which a clock shows a second, which is 60 during a leap second. -/
def clockTime? (hour minute second fraction : Nat) : Option TimeOfDay :=
  if second = 60 then TimeOfDay.of? hour minute 59 (nanosecondsPerSecond + fraction)
  else TimeOfDay.of? hour minute second fraction

/-- Reads a time of day. -/
def readTimeOfDay (text : Text) : Option (TimeOfDay × Text) := do
  let (hour, text) ← readNumber 2 text
  let text ← readMark ':' text
  let (minute, text) ← readNumber 2 text
  let text ← readMark ':' text
  let (second, text) ← readNumber 2 text
  let (fraction, text) ← readFraction text
  let time ← clockTime? hour minute second fraction
  pure (time, text)

/-- What was read, provided that nothing follows it. -/
def complete {α : Type} : α × Text → Option α
  | (result, []) => some result
  | (_, _ :: _) => none

/-- A text with the first capital T replaced by a space. -/
def replaceSeparator : Text → Text
  | [] => []
  | char :: rest => if char = 'T' then ' ' :: rest else char :: replaceSeparator rest

end Calendar

open Calendar

/-- The date a text spells. -/
def Date.ofText? (text : Text) : Option Date :=
  (readDate text.trim).bind complete

/-- The timestamp a text spells. -/
def Timestamp.ofText? (text : Text) : Option Timestamp := do
  let (date, text) ← readDate (replaceSeparator text.trim)
  let (time, text) ← readTimeOfDay text
  complete (⟨date, time⟩, text)

end SqlDump
