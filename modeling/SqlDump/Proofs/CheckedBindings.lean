import Mathlib.Algebra.Ring.Nat
import SqlDump.Proofs.CheckedLiterals

/-!
# Binding literals with every cut checked

The values that literals stand for are computed once more.  Beside the cuts, every change of the
hour is tried: it must stay within the same day.
-/

namespace SqlDump

/-! ## Timestamps -/

namespace Calendar

theorem replaceSeparator_of_not_mem {text : Text} (absent : 'T' ∉ text) :
    replaceSeparator text = text := by
  induction text with
  | nil => rfl
  | cons char rest inductionHypothesis =>
    rw [List.mem_cons, not_or] at absent
    rw [replaceSeparator, if_neg (Ne.symm absent.1), inductionHypothesis absent.2]

theorem replaceSeparator_append
    {front : Text}
    (absent : 'T' ∉ front)
    (behind : Text) :
    replaceSeparator (front ++ 'T' :: behind) = front ++ ' ' :: behind := by
  induction front with
  | nil => rfl
  | cons char rest inductionHypothesis =>
    rw [List.mem_cons, not_or] at absent
    rw [List.cons_append, replaceSeparator, if_neg (Ne.symm absent.1),
      inductionHypothesis absent.2, List.cons_append]

end Calendar

namespace Checked

/-- A text with the first capital T replaced by a space: the text is cut on both sides of it. -/
def replaceSeparator (text : Text) : Checked Text :=
  match text.position? (· == 'T') with
  | none => pure text
  | some found => do
    let front ← attempt (text.cut? 0 found)
    let _ ← attempt (text.cut? found (found + 1))
    let behind ← attempt (text.cut? (found + 1) text.byteLength)
    pure (front ++ ' ' :: behind)

@[simp] theorem replaceSeparator_eq (text : Text) :
    replaceSeparator text = pure (Calendar.replaceSeparator text) := by
  unfold replaceSeparator
  cases located : text.position? (· == 'T') with
  | none =>
    have absent : 'T' ∉ text := fun member => by
      simpa using (Text.position?_eq_none_iff _ _).mp located 'T' member
    rw [Calendar.replaceSeparator_of_not_mem absent]
  | some found =>
    obtain ⟨front, mark, behind, rfl, rfl, isMark, others⟩ :=
      Text.exists_append_of_position? located
    obtain rfl : mark = 'T' := by simpa using isMark
    have absent : 'T' ∉ front := fun member => by simpa using others 'T' member
    have size : front.byteLength + 1 = Text.byteLength (front ++ ['T']) :=
      (Text.byteLength_append front ['T']).symm
    have separator := Text.cut?_append front ['T'] behind
    have rest := Text.cut?_behind (front ++ ['T']) behind
    rw [List.singleton_append] at separator
    rw [List.append_assoc, List.singleton_append] at rest
    dsimp only
    rw [attempt_bind (Text.cut?_front front ('T' :: behind)), size, attempt_bind separator,
      attempt_bind rest, Calendar.replaceSeparator_append absent]

/-- The timestamp a text spells. -/
def timestampOfText? (text : Text) : Checked (Option Timestamp) := do
  let separated ← replaceSeparator text.trim
  pure do
    let (date, text) ← Calendar.readDate separated
    let (time, text) ← Calendar.readTimeOfDay text
    Calendar.complete (⟨date, time⟩, text)

@[simp] theorem timestampOfText?_eq (text : Text) :
    timestampOfText? text = pure (Timestamp.ofText? text) := by
  rw [timestampOfText?, replaceSeparator_eq, pure_bind]
  rfl

end Checked

/-- The time some hours later, or earlier, on the same day.  A leap second is not moved, because
there is none at other times of the day. -/
def TimeOfDay.addHours? (hours : Int) (time : TimeOfDay) : Option TimeOfDay :=
  let hour := time.hour + hours
  if 0 ≤ hour ∧ hour < 24 ∧ time.nanosecond < nanosecondsPerSecond then
    TimeOfDay.of? hour.toNat time.minute time.second time.nanosecond
  else none

/-- The same time on the other half of the clock face is twelve hours away, on the same day. -/
theorem TimeOfDay.addHours?_inOtherHalf
    {time : TimeOfDay}
    (regular : time.nanosecond < nanosecondsPerSecond) :
    time.addHours? (if time.hour < 12 then 12 else -12) = some time.inOtherHalf := by
  have hour : ((time.hour : Int) + if time.hour < 12 then 12 else -12) = time.inOtherHalf.hour := by
    unfold inOtherHalf
    dsimp only
    split <;> omega
  have bound := time.inOtherHalf.isTimeOfDay.1
  rw [addHours?, hour]
  exact (if_pos ⟨by omega, by omega, regular⟩).trans time.inOtherHalf.of?_self

/-- Digits stand for a number below the power of ten of their count. -/
theorem Digits.value_lt
    {digits : Text}
    (areDigits : ∀ digit ∈ digits, digit.isDigit = true) :
    value digits < 10 ^ digits.length := by
  have bounded (init : Nat) : Nat.ofDigitChars 10 digits init < (init + 1) * 10 ^ digits.length := by
    induction digits generalizing init with
    | nil => simp [Nat.ofDigitChars]
    | cons digit rest inductionHypothesis =>
      obtain ⟨isDigit, others⟩ := List.forall_mem_cons.mp areDigits
      have bounds := Char.isDigit_iff_toNat.mp isDigit
      have first : '0'.toNat = 48 := rfl
      have last : '9'.toNat = 57 := rfl
      rw [Nat.ofDigitChars_cons, List.length_cons]
      calc Nat.ofDigitChars 10 rest (10 * init + (digit.toNat - '0'.toNat))
        _ < (10 * init + (digit.toNat - '0'.toNat) + 1) * 10 ^ rest.length :=
          inductionHypothesis others _
        _ ≤ ((init + 1) * 10) * 10 ^ rest.length := Nat.mul_le_mul_right _ (by omega)
        _ = (init + 1) * 10 ^ (rest.length + 1) := by rw [Nat.pow_succ', Nat.mul_assoc]
  simpa [value] using bounded 0

/-- Zeros behind some digits leave a number of the width. -/
theorem Digits.value_padRight_lt
    {width : Nat}
    {digits : Text}
    (areDigits : ∀ digit ∈ digits, digit.isDigit = true)
    (fits : digits.length ≤ width) :
    value (padRight width digits) < 10 ^ width := by
  have padded : ∀ digit ∈ padRight width digits, digit.isDigit = true := by
    intro digit member
    rcases List.mem_append.mp member with given | zero
    · exact areDigits digit given
    · rw [List.eq_of_mem_replicate zero]
      rfl
  have length : (padRight width digits).length = width := by
    simp [padRight, List.rightpad, fits]
  simpa only [length] using value_lt padded

/-- Zeros behind digits multiply what they stand for. -/
theorem Digits.value_padRight (width : Nat) (digits : Text) :
    value (padRight width digits) = value digits * 10 ^ (width - digits.length) := by
  have zeros (count init : Nat) :
      Nat.ofDigitChars 10 (List.replicate count '0') init = init * 10 ^ count := by
    induction count generalizing init with
    | zero => simp [Nat.ofDigitChars]
    | succ count inductionHypothesis =>
      rw [List.replicate_succ, Nat.ofDigitChars_cons, inductionHypothesis, Nat.sub_self,
        Nat.add_zero, Nat.mul_comm 10 init, Nat.mul_assoc, Nat.pow_succ']
  unfold padRight List.rightpad
  rw [value_append, zeros]

namespace Localized

theorem isDigit_of_readDigits
    {allows : Nat → Bool}
    {text digits rest : Text}
    (read : readDigits allows text = some (digits, rest)) :
    allows digits.length = true ∧ ∀ digit ∈ digits, digit.isDigit = true := by
  unfold readDigits at read
  dsimp only at read
  split at read
  · rename_i allowed
    cases read
    exact ⟨allowed, List.all_eq_true.mp List.all_takeWhile⟩
  · cases read

/-- A fraction of a second is less than a second. -/
theorem lt_of_readFraction
    {text rest : Text}
    {fraction : Nat}
    (read : readFraction text = some (fraction, rest)) :
    fraction < nanosecondsPerSecond := by
  cases text with
  | nil =>
    cases read
    decide
  | cons mark later =>
    rw [readFraction] at read
    split at read
    · obtain ⟨⟨digits, behind⟩, taken, whole⟩ := Option.map_eq_some_iff.mp read
      cases whole
      obtain ⟨short, areDigits⟩ := isDigit_of_readDigits taken
      have length : 1 ≤ digits.length ∧ digits.length ≤ 9 := by simpa [isFractionLength] using short
      exact Digits.value_padRight_lt areDigits length.2
    · cases read

/-- A localized text spells no leap second. -/
theorem nanosecond_of_ofSkeleton?
    {skeleton : Text}
    {timestamp : Timestamp}
    (spelled : ofSkeleton? skeleton = some timestamp) :
    timestamp.time.nanosecond < nanosecondsPerSecond := by
  -- The numbers and marks in front of the fraction do not matter.
  iterate 11
    obtain ⟨_, -, spelled⟩ := Option.bind_eq_some_iff.mp spelled
  obtain ⟨⟨fraction, rest⟩, read, spelled⟩ := Option.bind_eq_some_iff.mp spelled
  obtain ⟨date, -, spelled⟩ := Option.bind_eq_some_iff.mp spelled
  obtain ⟨time, known, whole⟩ := Option.bind_eq_some_iff.mp spelled
  have nanosecond : time.nanosecond = fraction := by
    unfold TimeOfDay.of? at known
    split at known
    · cases known
      rfl
    · cases known
  cases rest with
  | nil =>
    cases whole
    rw [nanosecond]
    exact lt_of_readFraction read
  | cons char rest => cases whole

end Localized

namespace Checked

/-- The time on a clock of 24 hours: twelve hours are added or taken away. -/
def resolveHalf (morning afternoon : Bool) (time : TimeOfDay) : Checked TimeOfDay :=
  if afternoon ∧ time.hour < 12 then attempt (time.addHours? 12)
  else if morning ∧ time.hour = 12 then attempt (time.addHours? (-12))
  else pure time

/-- The hour of the other half of the day belongs to the same day. -/
theorem resolveHalf_eq
    (morning afternoon : Bool)
    {time : TimeOfDay}
    (regular : time.nanosecond < nanosecondsPerSecond) :
    resolveHalf morning afternoon time =
      pure (Localized.resolveHalf morning afternoon time) := by
  have moved := TimeOfDay.addHours?_inOtherHalf regular
  unfold resolveHalf Localized.resolveHalf
  split
  · rename_i early
    rw [if_pos early.2] at moved
    rw [moved, attempt_some]
  split
  · rename_i noon
    rw [if_neg (by omega)] at moved
    rw [moved, attempt_some]
  · rfl

/-- The timestamp a localized text spells. -/
def parseLocalized (text : Text) : Checked Timestamp :=
  let skeleton := (Localized.withoutSigns text).trim
  match (Localized.ofSkeleton? skeleton).or (Localized.ofSkeleton? (Localized.tighten skeleton)) with
  | some timestamp => do
    let time ← resolveHalf (text.includes Localized.morningSign)
      (text.includes Localized.afternoonSign) timestamp.time
    pure { timestamp with time }
  | none => throw (.unparseableTimestamp text)

theorem parseLocalized_eq (text : Text) : parseLocalized text = of (Localized.parse text) := by
  unfold parseLocalized Localized.parse
  dsimp only
  cases spelled : (Localized.ofSkeleton? (Localized.withoutSigns text).trim).or
      (Localized.ofSkeleton? (Localized.tighten (Localized.withoutSigns text).trim)) with
  | none => rfl
  | some timestamp =>
    have regular : timestamp.time.nanosecond < nanosecondsPerSecond := by
      rcases Option.or_eq_some_iff.mp spelled with first | ⟨-, second⟩
      · exact Localized.nanosecond_of_ofSkeleton? first
      · exact Localized.nanosecond_of_ofSkeleton? second
    simp only [resolveHalf_eq _ _ regular, pure_bind]
    rfl

/-! ## Bindings -/

/-- The timestamp of a timestamp literal. -/
def timestampOf (text : Text) : Checked Timestamp := do
  match ← timestampOfText? text with
  | some found => pure found
  | none =>
    match Date.ofText? text with
    | some day => pure ⟨day, .midnight⟩
    | none => parseLocalized text

@[simp] theorem timestampOf_eq (text : Text) : timestampOf text = of (Literal.timestampOf text) := by
  rw [timestampOf, timestampOfText?_eq, pure_bind, Literal.timestampOf]
  cases Timestamp.ofText? text with
  | some found => rfl
  | none =>
    cases Date.ofText? text with
    | some day => rfl
    | none => exact parseLocalized_eq text

/-- The timestamp of a conversion call. -/
def convert (value format : Text) (language : Option Text) : Checked Timestamp :=
  if Literal.isLocalizedConversion value format language then parseLocalized value
  else do
    match ← timestampOfText? value with
    | some found => pure found
    | none => throw (.unparseableTimestamp value)

@[simp] theorem convert_eq (value format : Text) (language : Option Text) :
    convert value format language = of (Literal.convert value format language) := by
  unfold convert Literal.convert
  split
  · exact parseLocalized_eq value
  · rw [timestampOfText?_eq, pure_bind]
    cases Timestamp.ofText? value <;> rfl

/-- The binding of a date literal. -/
def dateBinding (text : Text) : Checked Binding := do
  match ← timestampOfText? text with
  | some found => pure (.timestamp found)
  | none =>
    match Date.ofText? text with
    | some day => pure (.date day)
    | none => throw (.unparseableDate text)

@[simp] theorem dateBinding_eq (text : Text) :
    dateBinding text = of (Literal.dateBinding text) := by
  rw [dateBinding, timestampOfText?_eq, pure_bind, Literal.dateBinding]
  cases Timestamp.ofText? text with
  | some found => rfl
  | none => cases Date.ofText? text <;> rfl

/-- The value a literal stands for.  Only dates and timestamps have a text to be cut. -/
def bind (policy : LargeTextPolicy) : Literal → Checked Binding
  | .date text => dateBinding text
  | .timestamp text => do
    let found ← timestampOf text
    pure (.timestamp found)
  | .toTimestamp value format language => do
    let found ← convert value format language
    pure (.timestamp found)
  | literal => of (literal.bind policy)

/-- Every literal is bound without a cut or a change of the hour that is not possible. -/
theorem bind_eq (policy : LargeTextPolicy) (literal : Literal) :
    bind policy literal = of (literal.bind policy) := by
  cases literal with
  | date text => exact dateBinding_eq text
  | timestamp text =>
    rw [bind, timestampOf_eq]
    cases found : Literal.timestampOf text <;> simp [Literal.bind, found, Except.map]
  | toTimestamp value format language =>
    rw [bind, convert_eq]
    cases found : Literal.convert value format language <;> simp [Literal.bind, found, Except.map]
  | _ => rfl

/-- The value a spelled value stands for. -/
def bindValue (policy : LargeTextPolicy) (token : Text) : Checked Binding := do
  let literal ← classify token
  bind policy literal

@[simp] theorem bindValue_eq (policy : LargeTextPolicy) (token : Text) :
    bindValue policy token = of (SqlDump.bindValue policy token) := by
  rw [bindValue, classify_eq]
  exact of_bind _ fun literal _ => bind_eq policy literal

end Checked
end SqlDump
