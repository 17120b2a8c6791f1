import SqlDump.Calendar.Date

/-!
# Timestamps

A timestamp is a date with a time of day, to the nanosecond and without a time zone.  A leap
second is the second 59 with a nanosecond count of a thousand million or more.
-/

namespace SqlDump

/-- Number of nanoseconds in a second. -/
def nanosecondsPerSecond : Nat := 1000000000

/-- Whether four numbers are a time of day.  A leap second behind another second than 59, which no
text spells, is left out. -/
def IsTimeOfDay (hour minute second nanosecond : Nat) : Prop :=
  hour < 24 ∧ minute < 60 ∧ second < 60 ∧
    (nanosecond < nanosecondsPerSecond ∨
      second = 59 ∧ nanosecond < 2 * nanosecondsPerSecond)

instance (hour minute second nanosecond : Nat) :
    Decidable (IsTimeOfDay hour minute second nanosecond) :=
  inferInstanceAs (Decidable (_ ∧ _))

/-- A time of day. -/
structure TimeOfDay where
  /-- The hour, from 0 to 23. -/
  hour : Nat
  /-- The minute, from 0 to 59. -/
  minute : Nat
  /-- The second, from 0 to 59. -/
  second : Nat
  /-- The nanosecond, past 999999999 in a leap second. -/
  nanosecond : Nat
  /-- The time exists. -/
  isTimeOfDay : IsTimeOfDay hour minute second nanosecond
  deriving DecidableEq, Repr

namespace TimeOfDay

/-- The time of day with an hour, a minute, a second and a nanosecond, if there is one. -/
def of? (hour minute second nanosecond : Nat) : Option TimeOfDay :=
  if isTimeOfDay : IsTimeOfDay hour minute second nanosecond then
    some ⟨hour, minute, second, nanosecond, isTimeOfDay⟩
  else none

@[simp] theorem of?_self (time : TimeOfDay) :
    of? time.hour time.minute time.second time.nanosecond = some time := by
  simp [of?, time.isTimeOfDay]

/-- The first moment of a day. -/
def midnight : TimeOfDay :=
  ⟨0, 0, 0, 0, by decide⟩

/-- The same time on the other half of the clock face. -/
def inOtherHalf (time : TimeOfDay) : TimeOfDay where
  hour := if time.hour < 12 then time.hour + 12 else time.hour - 12
  minute := time.minute
  second := time.second
  nanosecond := time.nanosecond
  isTimeOfDay := by
    obtain ⟨hourBound, others⟩ := time.isTimeOfDay
    refine ⟨?_, others⟩
    split <;> omega

end TimeOfDay

/-- A date with a time of day. -/
structure Timestamp where
  /-- The day. -/
  date : Date
  /-- The time on that day. -/
  time : TimeOfDay
  deriving DecidableEq, Repr

end SqlDump
