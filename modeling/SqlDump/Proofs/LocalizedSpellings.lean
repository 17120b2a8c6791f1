import SqlDump.Proofs.LocalizedSkeletons

/-!
# Spellings of localized timestamps

The same timestamp can be spelled in many ways: with one digit or two, with two digits of the year
or all four, with a half of the day or on a clock of 24 hours, and with white space in many places.
Every one of them is read back.
-/

namespace SqlDump

open Unicode (isWhiteSpace)

namespace Localized

open SqlDump.Insert (Blank)

/-! ## Characters outside signs -/

/-- A character of the numbers and marks of a localized timestamp, or of the white space between
them: one that stands in no sign. -/
def IsUnsigned (char : Char) : Prop :=
  char.isDigit = true ∨ isWhiteSpace char = true ∨ char = '-' ∨ char = '.'

instance (char : Char) : Decidable (IsUnsigned char) :=
  inferInstanceAs (Decidable (_ ∨ _))

theorem isUnsigned_blank (blank : Blank) : ∀ char ∈ blank.val, IsUnsigned char :=
  fun char member => .inr (.inl (Insert.isWhiteSpace_of_mem blank char member))

theorem IsNumeral.isUnsigned
    {allows : Nat → Bool}
    {digits : Text}
    (numeral : IsNumeral allows digits) :
    ∀ char ∈ digits, IsUnsigned char :=
  fun char member => .inl (numeral.2 char member)

theorem Dash.isUnsigned (dash : Dash) : ∀ char ∈ dash.text, IsUnsigned char := by
  simp only [text, List.forall_mem_append, List.forall_mem_cons]
  exact ⟨isUnsigned_blank _, .inr (.inr (.inl rfl)), isUnsigned_blank _⟩

theorem Skeleton.IsWritten.isUnsigned_clock {skeleton : Skeleton} (written : skeleton.IsWritten) :
    ∀ char ∈ skeleton.clock, IsUnsigned char := by
  have point : IsUnsigned '.' := .inr (.inr (.inr rfl))
  have fraction : ∀ char ∈ skeleton.fraction.elim [] ('.' :: ·), IsUnsigned char := by
    cases some : skeleton.fraction with
    | none => exact List.forall_mem_nil _
    | some digits => exact List.forall_mem_cons.mpr ⟨point, (written.fraction digits some).isUnsigned⟩
  simp only [clock, List.forall_mem_append, List.forall_mem_cons]
  exact ⟨written.hour.isUnsigned, point, written.minute.isUnsigned, point,
    written.second.isUnsigned, fraction⟩

/-! ## Spellings -/

/-- The halves of a day. -/
inductive Half where
  /-- The hours before noon. -/
  | morning
  /-- The hours after noon. -/
  | afternoon
  deriving DecidableEq

/-- The sign for a half of a day. -/
def Half.sign : Half → Text
  | morning => morningSign
  | afternoon => afternoonSign

namespace Half

/-- The character that tells the signs for the two halves apart. -/
def mark : Half → Char
  | morning => '上'
  | afternoon => '下'

theorem sign_eq (half : Half) : half.sign = [half.mark, '午'] := by
  cases half <;> rfl

theorem not_isUnsigned_mark (half : Half) : ¬ IsUnsigned half.mark := by
  cases half <;> decide

theorem mark_mem_elim_iff (half : Half) (written : Option Half) :
    half.mark ∈ written.elim [] sign ↔ written = some half := by
  rcases written with - | - | - <;> cases half <;> decide

end Half

/-- Whether a clock shows an hour: one of twelve if the half of the day is named, otherwise one of
all 24. -/
def IsHour : Option Half → Nat → Prop
  | none, hour => hour < 24
  | some _, hour => 1 ≤ hour ∧ hour ≤ 12

/-- The hour of the day when a clock shows an hour: the twelfth hour is the first of its half. -/
def hourOfDay : Option Half → Nat → Nat
  | none, hour => hour
  | some .morning, hour => hour % 12
  | some .afternoon, hour => hour % 12 + 12

theorem IsHour.bounds {half : Option Half} {hour : Nat} (isHour : IsHour half hour) :
    hour < 24 ∧ hourOfDay half hour < 24 := by
  rcases half with - | - | -
  all_goals
    simp only [IsHour] at isHour
    simp only [hourOfDay]
    omega

/-- The sign of a half of the day is taken out, and that of the other half stays. -/
theorem eraseAll_sign
    {front trail : Text}
    (half : Half)
    (written : Option Half)
    (unsignedFront : ∀ char ∈ front, IsUnsigned char)
    (unsignedTrail : ∀ char ∈ trail, IsUnsigned char) :
    Text.eraseAll (front ++ (written.elim [] Half.sign ++ trail)) half.sign =
      front ++ ((written.filter (· != half)).elim [] Half.sign ++ trail) := by
  have absentFront := mt (unsignedFront half.mark) half.not_isUnsigned_mark
  have absentTrail := mt (unsignedTrail half.mark) half.not_isUnsigned_mark
  by_cases same : written = some half
  · rw [same, Option.elim_some, half.sign_eq, Text.eraseAll_between absentFront absentTrail]
    simp [Option.filter]
  · have stays : written.filter (· != half) = written := by
      cases written with
      | none => rfl
      | some other => simpa using fun equal => same (congrArg some equal)
    rw [half.sign_eq, stays]
    exact Text.eraseAll_of_not_mem
      (by simp [absentFront, absentTrail, half.mark_mem_elim_iff, same]) _

/-- A number written with one or two digits. -/
structure ShortNumeral (number : Nat) where
  digits : Text
  isNumeral : IsNumeral isShort digits
  value_eq : Digits.value digits = number

/-- The ways to write a year. -/
inductive IsYear (year : Int) (digits : Text) : Prop where
  /-- The last two digits of a year from 1950 to 2049. -/
  | ofCentury
      (areDigits : ∀ digit ∈ digits, digit.isDigit = true)
      (length_eq : digits.length = 2)
      (bounds : 1950 ≤ year ∧ year ≤ 2049)
      (value_eq : (Digits.value digits : Int) = year % 100)
  /-- Four digits. -/
  | full
      (areDigits : ∀ digit ∈ digits, digit.isDigit = true)
      (length_eq : digits.length = 4)
      (value_eq : (Digits.value digits : Int) = year)

namespace IsYear

variable {year : Int} {digits : Text}

theorem isNumeral (isYear : IsYear year digits) : IsNumeral isYearLength digits := by
  cases isYear with
  | ofCentury areDigits length_eq => exact ⟨by rw [length_eq]; rfl, areDigits⟩
  | full areDigits length_eq => exact ⟨by rw [length_eq]; rfl, areDigits⟩

theorem yearOfDigits (isYear : IsYear year digits) : yearOfDigits digits = year := by
  unfold Localized.yearOfDigits
  cases isYear with
  | ofCentury areDigits length_eq bounds value_eq =>
    rw [if_pos length_eq]
    split <;> omega
  | full areDigits length_eq value_eq => rw [if_neg (by omega), value_eq]

end IsYear

/-- A localized timestamp together with all that its text leaves open. -/
structure Spelling where
  /-- White space in front of the day. -/
  lead : Blank
  date : Date
  day : ShortNumeral date.day
  firstDash : Dash
  month : ShortNumeral date.month
  /-- White space in front of the sign of the month. -/
  behindMonth : Blank
  secondDash : Dash
  year : Text
  isYear : IsYear date.year year
  /-- White space between the date and the clock. -/
  gap : Blank
  gap_ne_nil : gap.val ≠ []
  hour : Nat
  hourNumeral : ShortNumeral hour
  minute : Nat
  minute_lt : minute < 60
  minuteNumeral : ShortNumeral minute
  second : Nat
  second_lt : second < 60
  secondNumeral : ShortNumeral second
  fraction : Option Text
  isFraction : ∀ digits ∈ fraction, IsNumeral isFractionLength digits
  /-- White space in front of the sign of the half of the day. -/
  behindClock : Blank
  half : Option Half
  isHour : IsHour half hour
  /-- White space at the end. -/
  trail : Blank

namespace Spelling

variable (spelling : Spelling)

/-- The digits of a spelling. -/
def skeleton : Skeleton where
  day := spelling.day.digits
  month := spelling.month.digits
  year := spelling.year
  hour := spelling.hourNumeral.digits
  minute := spelling.minuteNumeral.digits
  second := spelling.secondNumeral.digits
  fraction := spelling.fraction

/-- What stands in front of the sign of the month. -/
def beforeMonthSign : Text :=
  spelling.lead.val ++ (spelling.day.digits ++ (spelling.firstDash.text ++ (spelling.month.digits ++
    spelling.behindMonth.val)))

/-- What stands between the sign of the month and that of the half of the day. -/
def behindMonthSign : Text :=
  spelling.secondDash.text ++ (spelling.year ++ (spelling.gap.val ++ (spelling.skeleton.clock ++
    spelling.behindClock.val)))

/-- The text of a spelling. -/
def text : Text :=
  spelling.beforeMonthSign ++ (monthSign ++ (spelling.behindMonthSign ++
    (spelling.half.elim [] Half.sign ++ spelling.trail.val)))

theorem isWritten_skeleton : spelling.skeleton.IsWritten where
  day := spelling.day.isNumeral
  month := spelling.month.isNumeral
  year := spelling.isYear.isNumeral
  hour := spelling.hourNumeral.isNumeral
  minute := spelling.minuteNumeral.isNumeral
  second := spelling.secondNumeral.isNumeral
  fraction := spelling.isFraction

/-! ### The timestamp of a spelling -/

/-- The nanoseconds that a fraction stands for: the digits that are left out are zeros. -/
def nanosecond : Nat :=
  spelling.fraction.elim 0 fun digits => Digits.value digits * 10 ^ (9 - digits.length)

theorem nanosecondOf_fraction : nanosecondOf spelling.fraction = spelling.nanosecond := by
  cases some : spelling.fraction with
  | none => simp [nanosecondOf, nanosecond, some]
  | some digits => simp [nanosecondOf, nanosecond, some, Digits.value_padRight]

theorem nanosecond_lt : spelling.nanosecond < nanosecondsPerSecond := by
  rw [← nanosecondOf_fraction]
  cases some : spelling.fraction with
  | none => decide
  | some digits =>
    obtain ⟨allowed, areDigits⟩ := spelling.isFraction digits some
    have length : 1 ≤ digits.length ∧ digits.length ≤ 9 := by simpa [isFractionLength] using allowed
    exact Digits.value_padRight_lt areDigits length.2

/-- The time that the clock shows. -/
def shown : TimeOfDay where
  hour := spelling.hour
  minute := spelling.minute
  second := spelling.second
  nanosecond := spelling.nanosecond
  isTimeOfDay :=
    ⟨spelling.isHour.bounds.1, spelling.minute_lt, spelling.second_lt, .inl spelling.nanosecond_lt⟩

/-- The timestamp of a spelling. -/
def timestamp : Timestamp where
  date := spelling.date
  time := {
    hour := hourOfDay spelling.half spelling.hour
    minute := spelling.minute
    second := spelling.second
    nanosecond := spelling.nanosecond
    isTimeOfDay := ⟨spelling.isHour.bounds.2, spelling.shown.isTimeOfDay.2⟩ }

theorem timestamp?_skeleton : spelling.skeleton.timestamp? = some ⟨spelling.date, spelling.shown⟩ := by
  have date : Date.of? (yearOfDigits spelling.year) (Digits.value spelling.month.digits)
      (Digits.value spelling.day.digits) = some spelling.date := by
    rw [spelling.isYear.yearOfDigits, spelling.month.value_eq, spelling.day.value_eq, Date.of?_self]
  have time : TimeOfDay.of? (Digits.value spelling.hourNumeral.digits)
      (Digits.value spelling.minuteNumeral.digits) (Digits.value spelling.secondNumeral.digits)
      (nanosecondOf spelling.fraction) = some spelling.shown := by
    rw [spelling.hourNumeral.value_eq, spelling.minuteNumeral.value_eq,
      spelling.secondNumeral.value_eq, spelling.nanosecondOf_fraction]
    exact spelling.shown.of?_self
  simp only [Skeleton.timestamp?, skeleton, date, time, bind, Option.bind_some, pure]

theorem time_eq
    {time : TimeOfDay}
    (hour : time.hour = hourOfDay spelling.half spelling.hour)
    (minute : time.minute = spelling.minute)
    (second : time.second = spelling.second)
    (nanosecond : time.nanosecond = spelling.nanosecond) :
    time = spelling.timestamp.time := by
  have whole := time.of?_self
  rw [hour, minute, second, nanosecond] at whole
  exact Option.some.inj (whole.symm.trans spelling.timestamp.time.of?_self)

/-- The half of the day turns the hour that the clock shows into the hour of the day. -/
theorem resolveHalf_shown :
    resolveHalf (spelling.half == some .morning) (spelling.half == some .afternoon) spelling.shown =
      spelling.timestamp.time := by
  have isHour := spelling.isHour
  have shown : spelling.shown.hour = spelling.hour := rfl
  -- the hour is moved at twelve in the morning, and at any other hour in the afternoon
  unfold resolveHalf
  rcases half : spelling.half with - | - | -
  all_goals
    rw [half] at isHour
    simp only [IsHour] at isHour
  case none => exact spelling.time_eq (by rw [half]; rfl) rfl rfl rfl
  case some.morning =>
    by_cases noon : spelling.shown.hour = 12
    · rw [if_neg (by simp), if_pos ⟨rfl, noon⟩]
      refine spelling.time_eq ?_ rfl rfl rfl
      simp [TimeOfDay.inOtherHalf, noon, half, hourOfDay, ← shown]
    · rw [if_neg (by simp), if_neg (by simp [noon])]
      refine spelling.time_eq ?_ rfl rfl rfl
      rw [shown, half, hourOfDay, Nat.mod_eq_of_lt (by omega)]
  case some.afternoon =>
    by_cases noon : spelling.shown.hour = 12
    · rw [if_neg (by omega), if_neg (by simp)]
      refine spelling.time_eq ?_ rfl rfl rfl
      simp [half, hourOfDay, ← shown, noon]
    · have early : spelling.shown.hour < 12 := by omega
      rw [if_pos ⟨rfl, early⟩]
      refine spelling.time_eq ?_ rfl rfl rfl
      simp [TimeOfDay.inOtherHalf, early, half, hourOfDay, ← shown, Nat.mod_eq_of_lt]

/-! ### The signs of a spelling -/

theorem isUnsigned_beforeMonthSign : ∀ char ∈ spelling.beforeMonthSign, IsUnsigned char := by
  simp only [beforeMonthSign, List.forall_mem_append]
  exact ⟨isUnsigned_blank _, spelling.day.isNumeral.isUnsigned, spelling.firstDash.isUnsigned,
    spelling.month.isNumeral.isUnsigned, isUnsigned_blank _⟩

theorem isUnsigned_behindMonthSign : ∀ char ∈ spelling.behindMonthSign, IsUnsigned char := by
  simp only [behindMonthSign, List.forall_mem_append]
  exact ⟨spelling.secondDash.isUnsigned, spelling.isYear.isNumeral.isUnsigned, isUnsigned_blank _,
    spelling.isWritten_skeleton.isUnsigned_clock, isUnsigned_blank _⟩

/-- The mark of a half of the day stands in the text if its sign is written. -/
theorem mark_mem_text_iff (half : Half) : half.mark ∈ spelling.text ↔ spelling.half = some half := by
  have signed := half.not_isUnsigned_mark
  have front := mt (spelling.isUnsigned_beforeMonthSign half.mark) signed
  have middle := mt (spelling.isUnsigned_behindMonthSign half.mark) signed
  have trail := mt (isUnsigned_blank spelling.trail half.mark) signed
  have month : half.mark ∉ monthSign := by cases half <;> decide
  simp [text, front, middle, trail, month, half.mark_mem_elim_iff]

/-- The sign of a half of the day is found if it is written. -/
theorem includes_sign (half : Half) :
    spelling.text.includes half.sign = (spelling.half == some half) := by
  rw [Bool.eq_iff_iff, Text.includes_iff_isInfix, beq_iff_eq]
  constructor
  · intro found
    refine (spelling.mark_mem_text_iff half).mp (found.subset ?_)
    rw [half.sign_eq]
    exact List.mem_cons_self
  · intro written
    refine ⟨spelling.beforeMonthSign ++ monthSign ++ spelling.behindMonthSign, spelling.trail.val, ?_⟩
    simp [text, written]

/-- Without the sign of the month and that of the half of the day, the rest stands as it is. -/
theorem withoutSigns_text :
    withoutSigns spelling.text =
      spelling.beforeMonthSign ++ spelling.behindMonthSign ++ spelling.trail.val := by
  have front : ∀ char ∈ spelling.beforeMonthSign ++ spelling.behindMonthSign, IsUnsigned char :=
    List.forall_mem_append.mpr
      ⟨spelling.isUnsigned_beforeMonthSign, spelling.isUnsigned_behindMonthSign⟩
  have month : spelling.text.eraseAll monthSign =
      spelling.beforeMonthSign ++ spelling.behindMonthSign ++
        (spelling.half.elim [] Half.sign ++ spelling.trail.val) := by
    have signed : ¬ IsUnsigned '月' := by decide
    have other : '月' ∉ spelling.half.elim [] Half.sign := by
      rcases spelling.half with - | - | - <;> decide
    rw [List.append_assoc]
    refine Text.eraseAll_between (mt (spelling.isUnsigned_beforeMonthSign _) signed) ?_ []
    simp [mt (spelling.isUnsigned_behindMonthSign _) signed, other,
      mt (isUnsigned_blank spelling.trail _) signed]
  have afternoon := eraseAll_sign .afternoon spelling.half front (isUnsigned_blank spelling.trail)
  have morning := eraseAll_sign .morning (spelling.half.filter (· != .afternoon)) front
    (isUnsigned_blank spelling.trail)
  have nothing : (spelling.half.filter (· != .afternoon)).filter (· != .morning) = none := by
    rcases spelling.half with - | - | - <;> rfl
  rw [nothing] at morning
  rw [withoutSigns, month]
  exact (congrArg (Text.eraseAll · morningSign) afternoon).trans morning

/-! ### Reading a spelling -/

/-- The second dash with all the white space that is left around it without the sign of the
month. -/
def widenedDash : Dash :=
  ⟨⟨spelling.behindMonth.val ++ spelling.secondDash.before.val, by
    rw [Text.isBlank_append, spelling.behindMonth.property, spelling.secondDash.before.property]
    rfl⟩, spelling.secondDash.behind⟩

theorem trim_withoutSigns :
    (withoutSigns spelling.text).trim =
      spelling.skeleton.spaced spelling.firstDash spelling.widenedDash spelling.gap := by
  have whole : withoutSigns spelling.text = spelling.lead.val ++
      (spelling.skeleton.spaced spelling.firstDash spelling.widenedDash spelling.gap ++
        (spelling.behindClock.val ++ spelling.trail.val)) := by
    rw [withoutSigns_text]
    simp [beforeMonthSign, behindMonthSign, Skeleton.spaced, skeleton, widenedDash, Dash.text]
  have blank : Text.isBlank (spelling.behindClock.val ++ spelling.trail.val) = true := by
    rw [Text.isBlank_append, spelling.behindClock.property, spelling.trail.property]
    rfl
  rw [whole, Text.trim_append_of_isBlank _ _ spelling.lead.property,
    Text.trim_append_blank _ _ blank, spelling.isWritten_skeleton.trim_spaced]

end Spelling

/-- Every spelling of a localized timestamp is read back. -/
theorem parse_text (spelling : Spelling) : parse spelling.text = .ok spelling.timestamp := by
  have written := spelling.isWritten_skeleton
  have read : (ofSkeleton? (withoutSigns spelling.text).trim).or
      (ofSkeleton? (tighten (withoutSigns spelling.text).trim)) =
        some ⟨spelling.date, spelling.shown⟩ := by
    rw [ofSkeleton?_or_tighten, spelling.trim_withoutSigns, written.tighten_spaced _ _
      spelling.gap_ne_nil, written.ofSkeleton?_text, spelling.timestamp?_skeleton]
  have half := spelling.resolveHalf_shown
  rw [← spelling.includes_sign, ← spelling.includes_sign] at half
  rw [parse, read]
  exact congrArg (fun time => Except.ok (Timestamp.mk spelling.date time)) half

/-- White space in front of the second dash and in front of the sign of the afternoon. -/
theorem parse_text_of_afternoon :
    parse "19-8月 -25 10.30.00.5 下午".toList =
      .ok ⟨⟨2025, 8, 19, by decide⟩, ⟨22, 30, 0, 500000000, by decide⟩⟩ := by
  have digits (text : Text) (all : text.all Char.isDigit = true) :
      ∀ digit ∈ text, digit.isDigit = true := List.all_eq_true.mp all
  have isFraction : ∀ fraction ∈ some ['5'], IsNumeral isFractionLength fraction := by
    rintro _ ⟨rfl⟩
    exact ⟨rfl, digits _ rfl⟩
  exact parse_text {
    lead := .empty
    date := ⟨2025, 8, 19, by decide⟩
    day := ⟨['1', '9'], ⟨rfl, digits _ rfl⟩, rfl⟩
    firstDash := .tight
    month := ⟨['8'], ⟨rfl, digits _ rfl⟩, rfl⟩
    behindMonth := .empty
    secondDash := ⟨.space, .empty⟩
    year := ['2', '5']
    isYear := .ofCentury (digits _ rfl) rfl (by decide) rfl
    gap := .space
    gap_ne_nil := List.cons_ne_nil _ _
    hour := 10
    hourNumeral := ⟨['1', '0'], ⟨rfl, digits _ rfl⟩, rfl⟩
    minute := 30
    minute_lt := by decide
    minuteNumeral := ⟨['3', '0'], ⟨rfl, digits _ rfl⟩, rfl⟩
    second := 0
    second_lt := by decide
    secondNumeral := ⟨['0', '0'], ⟨rfl, digits _ rfl⟩, rfl⟩
    fraction := some ['5']
    isFraction
    behindClock := .space
    half := some .afternoon
    isHour := ⟨by decide, by decide⟩
    trail := .empty }

end Localized
end SqlDump
