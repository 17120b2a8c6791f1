import SqlDump.Proofs.CheckedBindings
import SqlDump.Proofs.Literals

/-!
# Stored dates and timestamps

A database stores dates and timestamps as texts.  A number written with leading zeros is read back
from the front of a text, however it goes on behind the digits, and so are a date and a time.
Therefore what is stored reads back, for years of any length and sign and in leap seconds too.
-/

namespace SqlDump

open Unicode (isWhiteSpace)

/-! ## Padded numbers -/

namespace Digits

theorem isDigit_of_mem_padLeft (width number : Nat) :
    ∀ digit ∈ padLeft width (ofNat number), digit.isDigit = true := by
  intro digit member
  rcases List.mem_append.mp member with zero | written
  · rw [List.eq_of_mem_replicate zero]
    rfl
  · exact isDigit_of_mem_ofNat number digit written

theorem padLeft_ne_nil (width number : Nat) : padLeft width (ofNat number) ≠ [] :=
  List.append_ne_nil_of_right_ne_nil _ (ofNat_ne_nil number)

/-- A number that fits the width is written with as many digits. -/
theorem length_padLeft
    {width number : Nat}
    (positive : 0 < width)
    (fits : number < 10 ^ width) :
    (padLeft width (ofNat number)).length = width := by
  have short : (ofNat number).length ≤ width :=
    (Nat.length_toDigits_le_iff (by decide) positive).mpr fits
  rw [padLeft, List.length_leftpad]
  omega

/-- Digits in front of anything else are taken off as a whole. -/
theorem span_append
    {limit : Nat}
    {digits rest : Text}
    (areDigits : ∀ digit ∈ digits, digit.isDigit = true)
    (fits : digits.length ≤ limit)
    (ends : ∀ char ∈ rest.head?, char.isDigit = false) :
    span limit (digits ++ rest) = (digits, rest) := by
  have stops : ∀ char ∈ (rest.take (limit - digits.length)).head?, char.isDigit = false := by
    intro char member
    rw [List.head?_take] at member
    split at member
    · cases member
    · exact ends char member
  have taken : ((digits ++ rest).take limit).takeWhile Char.isDigit = digits := by
    rw [List.take_append, List.take_of_length_le fits]
    exact (takeWhile_dropWhile_append areDigits stops).1
  rw [span, taken, List.drop_left]

end Digits

namespace Calendar

theorem readMark_self (mark : Char) (rest : Text) : readMark mark (mark :: rest) = some rest :=
  if_pos rfl

theorem isWhiteSpace_of_isDigit {char : Char} (digit : char.isDigit = true) :
    isWhiteSpace char = false :=
  Keyword.isWhiteSpace_of_continuesWord (Keyword.continuesWord_of_isDigit digit)

theorem trimStart_padLeft_append (width number : Nat) (rest : Text) :
    Text.trimStart (Digits.padLeft width (Digits.ofNat number) ++ rest) =
      Digits.padLeft width (Digits.ofNat number) ++ rest := by
  obtain ⟨first, later, shape⟩ := List.exists_cons_of_ne_nil (Digits.padLeft_ne_nil width number)
  have digit := Digits.isDigit_of_mem_padLeft width number first (shape ▸ List.mem_cons_self)
  rw [shape, List.cons_append, Text.trimStart_cons_of_not _ _ (isWhiteSpace_of_isDigit digit)]

/-- A padded number is read, as far as its digits go. -/
theorem readNumber_padLeft
    {width number : Nat}
    (positive : 0 < width)
    (fits : number < 10 ^ width)
    {rest : Text}
    (ends : ∀ char ∈ rest.head?, char.isDigit = false) :
    readNumber width (Digits.padLeft width (Digits.ofNat number) ++ rest) = some (number, rest) := by
  have split := Digits.span_append (Digits.isDigit_of_mem_padLeft width number)
    (Nat.le_of_eq (Digits.length_padLeft positive fits)) ends
  have value := Digits.value_padLeft width (Digits.ofNat number)
  rw [Digits.value_ofNat] at value
  rw [readNumber, trimStart_padLeft_append, split]
  obtain ⟨first, later, shape⟩ := List.exists_cons_of_ne_nil (Digits.padLeft_ne_nil width number)
  rw [shape] at value ⊢
  exact congrArg (fun number => some (number, rest)) value

theorem readNumber_twoDigits
    {number : Nat}
    (small : number < 100)
    {rest : Text}
    (ends : ∀ char ∈ rest.head?, char.isDigit = false) :
    readNumber 2 (twoDigits number ++ rest) = some (number, rest) :=
  readNumber_padLeft (by decide) small ends

/-- White space in front of a number does not count. -/
theorem readNumber_space (limit : Nat) (text : Text) :
    readNumber limit (' ' :: text) = readNumber limit text := rfl

/-! ## Dates -/

/-- A year behind its sign is read, as far as its digits go. -/
theorem readYear_of_sign
    {sign : Char}
    {negative : Bool}
    (solid : isWhiteSpace sign = false)
    (signed : ∀ rest, Integer.splitSign (sign :: rest) = (negative, rest))
    (number : Nat)
    {rest : Text}
    (ends : ∀ char ∈ rest.head?, char.isDigit = false) :
    readYear (sign :: (Digits.padLeft 4 (Digits.ofNat number) ++ rest)) =
      some (Integer.signed negative number, rest) := by
  have value := Digits.value_padLeft 4 (Digits.ofNat number)
  rw [Digits.value_ofNat] at value
  have split : Digits.span (Digits.padLeft 4 (Digits.ofNat number) ++ rest).length
      (Digits.padLeft 4 (Digits.ofNat number) ++ rest) =
        (Digits.padLeft 4 (Digits.ofNat number), rest) :=
    Digits.span_append (Digits.isDigit_of_mem_padLeft 4 number) (by simp) ends
  obtain ⟨first, later, shape⟩ := List.exists_cons_of_ne_nil (Digits.padLeft_ne_nil 4 number)
  rw [readYear, Text.trimStart_cons_of_not _ _ solid]
  simp only [signed, List.length_cons, Nat.lt_add_one, if_true, split]
  rw [shape] at value ⊢
  exact congrArg (fun number : Nat => some (Integer.signed negative number, rest)) value

/-- A year without a sign is read as a number of four digits. -/
theorem readYear_of_isDigit
    {char : Char}
    (digit : char.isDigit = true)
    (rest : Text) :
    readYear (char :: rest) =
      (readNumber 4 (char :: rest)).map fun found => ((found.1 : Int), found.2) := by
  have start := Text.trimStart_cons_of_not char rest (isWhiteSpace_of_isDigit digit)
  rw [readYear, readNumber, start]
  simp only [Integer.splitSign_of_isDigit digit, Nat.lt_irrefl, if_false]
  split <;> simp_all [Integer.signed]

/-- Every year is read back. -/
theorem readYear_yearText
    (year : Int)
    {rest : Text}
    (ends : ∀ char ∈ rest.head?, char.isDigit = false) :
    readYear (yearText year ++ rest) = some (year, rest) := by
  unfold yearText
  dsimp only
  split_ifs with negative large
  · have value : Integer.signed true year.natAbs = year := by
      rw [Integer.signed, if_pos rfl]
      omega
    rw [List.cons_append, readYear_of_sign rfl (fun _ => rfl) _ ends, value]
  · have value : Integer.signed false year.natAbs = year := by
      rw [Integer.signed, if_neg Bool.false_ne_true]
      omega
    rw [List.cons_append, readYear_of_sign rfl (fun _ => rfl) _ ends, value]
  · have fits : year.natAbs < 10 ^ 4 := by omega
    have value : (year.natAbs : Int) = year := by omega
    have number := readNumber_padLeft (by decide) fits ends
    obtain ⟨first, later, shape⟩ :=
      List.exists_cons_of_ne_nil (Digits.padLeft_ne_nil 4 year.natAbs)
    have digit := Digits.isDigit_of_mem_padLeft 4 year.natAbs first (shape ▸ List.mem_cons_self)
    rw [shape, List.cons_append] at number ⊢
    rw [readYear_of_isDigit digit, number, Option.map_some, value]

/-- A date is read back from the front of a text. -/
theorem readDate_toText
    (date : Date)
    {rest : Text}
    (ends : ∀ char ∈ rest.head?, char.isDigit = false) :
    readDate (date.toText ++ rest) = some (date, rest) := by
  obtain ⟨-, ⟨-, lastMonth⟩, -, lastDay⟩ := date.isDate
  have days : daysInMonth date.year date.month ≤ 31 := by
    unfold daysInMonth
    split_ifs <;> decide
  have dash (text : Text) : ∀ char ∈ List.head? ('-' :: text), char.isDigit = false := by
    rintro _ ⟨rfl⟩
    rfl
  have shape : date.toText ++ rest = yearText date.year ++ '-' :: (twoDigits date.month ++
      '-' :: (twoDigits date.day ++ rest)) := by
    simp [Date.toText]
  rw [shape, readDate]
  simp only [readYear_yearText date.year (dash _), readMark_self,
    readNumber_twoDigits (by omega : date.month < 100) (dash _),
    readNumber_twoDigits (by omega : date.day < 100) ends, Date.of?_self, bind, Option.bind_some]
  rfl

/-! ## Times of day -/

/-- Nine digits behind a point are read as nanoseconds. -/
theorem readFraction_padLeft {nanosecond : Nat} (fits : nanosecond < nanosecondsPerSecond) :
    readFraction ('.' :: Digits.padLeft 9 (Digits.ofNat nanosecond)) = some (nanosecond, []) := by
  have length : (Digits.padLeft 9 (Digits.ofNat nanosecond)).length = 9 :=
    Digits.length_padLeft (by decide) fits
  have split : Digits.span 9 (Digits.padLeft 9 (Digits.ofNat nanosecond) ++ []) =
      (Digits.padLeft 9 (Digits.ofNat nanosecond), []) :=
    Digits.span_append (Digits.isDigit_of_mem_padLeft 9 nanosecond) (Nat.le_of_eq length) (by simp)
  rw [List.append_nil] at split
  have value : Digits.value (Digits.padRight 9 (Digits.padLeft 9 (Digits.ofNat nanosecond))) =
      nanosecond := by
    rw [Digits.value_padRight, length, Digits.value_padLeft, Digits.value_ofNat]
    exact Nat.mul_one nanosecond
  rw [readFraction, split]
  obtain ⟨first, later, shape⟩ := List.exists_cons_of_ne_nil (Digits.padLeft_ne_nil 9 nanosecond)
  rw [shape] at value ⊢
  exact congrArg (fun nanosecond => some (nanosecond, [])) value

/-- The second that a clock shows and the nanoseconds behind it make up the time. -/
theorem clockTime?_shown (time : TimeOfDay) :
    clockTime? time.hour time.minute (if time.isLeapSecond then time.second + 1 else time.second)
      (time.nanosecond % nanosecondsPerSecond) = some time := by
  obtain ⟨-, -, small, bounds⟩ := time.isTimeOfDay
  have whole := time.of?_self
  by_cases leap : nanosecondsPerSecond ≤ time.nanosecond
  · have second : time.second = 59 := by omega
    have nanosecond : nanosecondsPerSecond + time.nanosecond % nanosecondsPerSecond =
        time.nanosecond := by
      unfold nanosecondsPerSecond at *
      omega
    rw [TimeOfDay.isLeapSecond, decide_eq_true leap, if_pos rfl, clockTime?,
      if_pos (congrArg (· + 1) second), nanosecond, ← second, whole]
  · rw [TimeOfDay.isLeapSecond, decide_eq_false leap, if_neg Bool.false_ne_true, clockTime?,
      if_neg (Nat.ne_of_lt small), Nat.mod_eq_of_lt (Nat.lt_of_not_le leap), whole]

theorem readTimeOfDay_toText (time : TimeOfDay) :
    readTimeOfDay (' ' :: time.toText) = some (time, []) := by
  obtain ⟨hour, minute, second, -⟩ := time.isTimeOfDay
  have shown : (if time.isLeapSecond then time.second + 1 else time.second) < 100 := by
    split <;> omega
  have colon (text : Text) : ∀ char ∈ List.head? (':' :: text), char.isDigit = false := by
    rintro _ ⟨rfl⟩
    rfl
  have point (text : Text) : ∀ char ∈ List.head? ('.' :: text), char.isDigit = false := by
    rintro _ ⟨rfl⟩
    rfl
  have fits : time.nanosecond % nanosecondsPerSecond < nanosecondsPerSecond :=
    Nat.mod_lt _ (by decide)
  rw [readTimeOfDay, TimeOfDay.toText]
  simp only [List.append_assoc, List.cons_append, readNumber_space, readMark_self,
    readNumber_twoDigits (by omega : time.hour < 100) (colon _),
    readNumber_twoDigits (by omega : time.minute < 100) (colon _),
    readNumber_twoDigits shown (point _), readFraction_padLeft fits, clockTime?_shown, bind,
    Option.bind_some]
  rfl

/-! ## Whole texts -/

/-- The characters of a date or of a time of day. -/
def IsTemporal (char : Char) : Prop :=
  char.isDigit = true ∨ char ∈ ['-', '+', ':', '.']

theorem IsTemporal.solid {char : Char} (temporal : IsTemporal char) :
    isWhiteSpace char = false ∧ char ≠ 'T' := by
  rcases temporal with digit | mark
  · refine ⟨isWhiteSpace_of_isDigit digit, ?_⟩
    rintro rfl
    exact absurd digit (by decide)
  · simp only [List.mem_cons, List.not_mem_nil, or_false] at mark
    rcases mark with rfl | rfl | rfl | rfl <;> decide

theorem isTemporal_padLeft (width number : Nat) :
    ∀ char ∈ Digits.padLeft width (Digits.ofNat number), IsTemporal char :=
  fun char member => .inl (Digits.isDigit_of_mem_padLeft width number char member)

theorem isTemporal_date (date : Date) : ∀ char ∈ date.toText, IsTemporal char := by
  have mark {char : Char} (isMark : char ∈ ['-', '+', ':', '.']) : IsTemporal char := .inr isMark
  have year : ∀ char ∈ yearText date.year, IsTemporal char := by
    unfold yearText
    dsimp only
    split_ifs
    · exact List.forall_mem_cons.mpr ⟨mark (by simp), isTemporal_padLeft 4 _⟩
    · exact List.forall_mem_cons.mpr ⟨mark (by simp), isTemporal_padLeft 4 _⟩
    · exact isTemporal_padLeft 4 _
  simp only [Date.toText, List.forall_mem_append, List.forall_mem_cons]
  exact ⟨⟨year, mark (by simp), isTemporal_padLeft 2 _⟩, mark (by simp), isTemporal_padLeft 2 _⟩

theorem isTemporal_timeOfDay (time : TimeOfDay) : ∀ char ∈ time.toText, IsTemporal char := by
  have mark {char : Char} (isMark : char ∈ ['-', '+', ':', '.']) : IsTemporal char := .inr isMark
  simp only [TimeOfDay.toText, List.forall_mem_append, List.forall_mem_cons]
  exact ⟨⟨⟨isTemporal_padLeft 2 _, mark (by simp), isTemporal_padLeft 2 _⟩, mark (by simp),
    isTemporal_padLeft 2 _⟩, mark (by simp), isTemporal_padLeft 9 _⟩

end Calendar

open Calendar

/-- A stored date is read back. -/
theorem Date.ofText?_toText (date : Date) : ofText? date.toText = some date := by
  have solid (char : Char) (member : char ∈ date.toText) : isWhiteSpace char = false :=
    (isTemporal_date date char member).solid.1
  have trimmed : date.toText.trim = date.toText :=
    Text.trim_eq_self (fun char first => solid char (List.mem_of_mem_head? first))
      fun char last => solid char (List.mem_of_mem_getLast? last)
  have read : readDate (date.toText ++ []) = some (date, []) := readDate_toText date (by simp)
  rw [List.append_nil] at read
  rw [ofText?, trimmed, read]
  rfl

theorem Date.toText_injective : Function.Injective Date.toText := by
  intro left right same
  have read := left.ofText?_toText
  rw [same, right.ofText?_toText] at read
  exact (Option.some.inj read).symm

/-- A stored timestamp is read back. -/
theorem Timestamp.ofText?_toText (timestamp : Timestamp) :
    ofText? timestamp.toText = some timestamp := by
  obtain ⟨date, time⟩ := timestamp
  have dateSolid (char : Char) (member : char ∈ date.toText) :=
    (isTemporal_date date char member).solid
  have timeSolid (char : Char) (member : char ∈ time.toText) :=
    (isTemporal_timeOfDay time char member).solid
  have shape : toText ⟨date, time⟩ = date.toText ++ ' ' :: time.toText := rfl
  have trimmed : (date.toText ++ ' ' :: time.toText).trim = date.toText ++ ' ' :: time.toText := by
    apply Text.trim_eq_self
    · rw [List.head?_append, Option.or_of_isSome (by simp [Date.toText])]
      exact fun char first => (dateSolid char (List.mem_of_mem_head? first)).1
    · rw [List.append_cons, List.getLast?_append, Option.or_of_isSome (by simp [TimeOfDay.toText])]
      exact fun char last => (timeSolid char (List.mem_of_mem_getLast? last)).1
  have separator : 'T' ∉ date.toText ++ ' ' :: time.toText := by
    simp only [List.mem_append, List.mem_cons, not_or]
    exact ⟨fun member => (dateSolid 'T' member).2 rfl, by decide,
      fun member => (timeSolid 'T' member).2 rfl⟩
  have space : ∀ char ∈ List.head? (' ' :: time.toText), char.isDigit = false := by
    rintro _ ⟨rfl⟩
    rfl
  rw [shape, ofText?, trimmed, replaceSeparator_of_not_mem separator]
  simp only [readDate_toText date space, readTimeOfDay_toText time, bind, Option.bind_some]
  rfl

theorem Timestamp.toText_injective : Function.Injective Timestamp.toText := by
  intro left right same
  have read := left.ofText?_toText
  rw [same, right.ofText?_toText] at read
  exact (Option.some.inj read).symm

namespace Binding

/-- What is stored for a timestamp or a date reads back as what it was, so that different ones are
stored differently. -/
theorem stored_reads_back :
    (∀ value : Timestamp, ∃ text, (timestamp value).toStored = .text text ∧
      Timestamp.ofText? text = some value) ∧
    (∀ value : Date, ∃ text, (date value).toStored = .text text ∧
      Date.ofText? text = some value) ∧
    Function.Injective (fun value => (timestamp value).toStored) ∧
    Function.Injective (fun value => (date value).toStored) := by
  refine ⟨fun value => ⟨value.toText, rfl, value.ofText?_toText⟩,
    fun value => ⟨value.toText, rfl, value.ofText?_toText⟩, ?_, ?_⟩
  · exact fun left right same => Timestamp.toText_injective (Stored.text.inj same)
  · exact fun left right same => Date.toText_injective (Stored.text.inj same)

/-- The leap second at the end of a year before the year one. -/
example :
    (timestamp ⟨⟨-44, 12, 31, by decide⟩, ⟨23, 59, 59, 1500000000, by decide⟩⟩).toStored =
      .text "-0044-12-31 23:59:60.500000000".toList := by
  decide

end Binding
end SqlDump
