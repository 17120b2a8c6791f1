import SqlDump.Proofs.CheckedBindings
import SqlDump.Proofs.InsertParts

/-!
# Skeletons of localized timestamps

Without its signs a localized timestamp is a skeleton of digits, dashes and points.  A skeleton is
read only as it is written tightly, so that a text which is read as it stands is its own tight form,
and trying it as it stands makes no difference.
-/

namespace SqlDump

open Unicode (isWhiteSpace)

namespace Localized

open Calendar (readMark complete)
open SqlDump.Insert (Blank)

/-! ## Tight texts -/

/-- The tight form of a text, behind a dash or not. -/
def tightenAfter (behindDash : Bool) (text : Text) : Text :=
  tightenFrom behindDash text.collapseSpaces

theorem meetsDash_cons {char : Char} (solid : isWhiteSpace char = false) (rest : Text) :
    meetsDash (char :: rest) = (char == '-') := by
  rw [meetsDash, Text.trimStart_cons_of_not char rest solid]
  rfl

theorem tightenFrom_cons_of_solid
    {char : Char}
    (solid : isWhiteSpace char = false)
    (behindDash : Bool)
    (rest : Text) :
    tightenFrom behindDash (char :: rest) = char :: tightenFrom (char == '-') rest := by
  simp [tightenFrom, solid]

/-- White space behind a dash is taken out. -/
theorem tightenAfter_blank_append
    {char : Char}
    (solid : isWhiteSpace char = false)
    (blank : Blank)
    (rest : Text) :
    tightenAfter true (blank.val ++ char :: rest) = tightenAfter true (char :: rest) := by
  by_cases empty : blank.val = []
  · rw [empty, List.nil_append]
  · have space : isWhiteSpace ' ' = true := rfl
    rw [tightenAfter, Text.collapseSpaces_blank_append blank.property empty solid, tightenFrom,
      if_pos (by simp [space]), ← Text.collapseSpaces_cons_of_not solid, ← tightenAfter]

/-- White space in front of a dash is taken out. -/
theorem tightenAfter_blank_append_dash (behindDash : Bool) (blank : Blank) (rest : Text) :
    tightenAfter behindDash (blank.val ++ '-' :: rest) = '-' :: tightenAfter true rest := by
  have solid : isWhiteSpace '-' = false := rfl
  have dash : tightenAfter behindDash ('-' :: rest) = '-' :: tightenAfter true rest := by
    rw [tightenAfter, Text.collapseSpaces_cons_of_not solid, tightenFrom_cons_of_solid solid]
    rfl
  by_cases empty : blank.val = []
  · rw [empty, List.nil_append, dash]
  · have space : isWhiteSpace ' ' = true := rfl
    rw [tightenAfter, Text.collapseSpaces_blank_append blank.property empty solid, tightenFrom,
      if_pos (by simp [space, meetsDash_cons solid]), ← Text.collapseSpaces_cons_of_not solid,
      ← tightenAfter, dash]

/-- Other white space becomes one space. -/
theorem tightenAfter_gap_append
    {char : Char}
    (solid : isWhiteSpace char = false)
    (noDash : char ≠ '-')
    {gap : Blank}
    (nonempty : gap.val ≠ [])
    (rest : Text) :
    tightenAfter false (gap.val ++ char :: rest) = ' ' :: tightenAfter false (char :: rest) := by
  rw [tightenAfter, Text.collapseSpaces_blank_append gap.property nonempty solid, tightenFrom,
    if_neg (by simp [meetsDash_cons solid, noDash]), ← Text.collapseSpaces_cons_of_not solid]
  rfl

/-- A word without dashes stays as it is. -/
theorem tightenAfter_word_append
    {word : Text}
    (solid : ∀ char ∈ word, isWhiteSpace char = false ∧ char ≠ '-')
    (nonempty : word ≠ [])
    (behindDash : Bool)
    (rest : Text) :
    tightenAfter behindDash (word ++ rest) = word ++ tightenAfter false rest := by
  induction word generalizing behindDash with
  | nil => exact absurd rfl nonempty
  | cons char later inductionHypothesis =>
    obtain ⟨⟨visible, noDash⟩, others⟩ := List.forall_mem_cons.mp solid
    have first : tightenAfter behindDash (char :: (later ++ rest)) =
        char :: tightenAfter false (later ++ rest) := by
      rw [tightenAfter, Text.collapseSpaces_cons_of_not visible, tightenFrom_cons_of_solid visible,
        beq_eq_false_iff_ne.mpr noDash, ← tightenAfter]
    rw [List.cons_append, first]
    by_cases final : later = []
    · rw [final]
      rfl
    · rw [inductionHypothesis others final]
      rfl

/-! ## Skeletons -/

/-- Digits of an allowed count. -/
def IsNumeral (allows : Nat → Bool) (digits : Text) : Prop :=
  allows digits.length = true ∧ ∀ digit ∈ digits, digit.isDigit = true

namespace IsNumeral

variable {allows : Nat → Bool} {digits : Text}

theorem solid (numeral : IsNumeral allows digits) :
    ∀ char ∈ digits, isWhiteSpace char = false ∧ char ≠ '-' := by
  intro char member
  have digit := numeral.2 char member
  refine ⟨Keyword.isWhiteSpace_of_continuesWord (Keyword.continuesWord_of_isDigit digit), ?_⟩
  rintro rfl
  exact absurd digit (by decide)

theorem ne_nil (numeral : IsNumeral allows digits) (positive : allows 0 = false) : digits ≠ [] := by
  rintro rfl
  exact Bool.false_ne_true (positive.symm.trans numeral.1)

end IsNumeral

/-- The digits of a localized timestamp. -/
structure Skeleton where
  day : Text
  month : Text
  year : Text
  hour : Text
  minute : Text
  second : Text
  fraction : Option Text

/-- A dash between the white space around it. -/
structure Dash where
  before : Blank
  behind : Blank

namespace Dash

/-- A dash as it is written. -/
def text (dash : Dash) : Text :=
  dash.before.val ++ '-' :: dash.behind.val

/-- A dash without white space. -/
def tight : Dash :=
  ⟨Blank.empty, Blank.empty⟩

end Dash

/-- A word behind a dash stays, and the white space around the dash is taken out. -/
theorem tightenAfter_dash_append
    {word : Text}
    (solid : ∀ char ∈ word, isWhiteSpace char = false ∧ char ≠ '-')
    (nonempty : word ≠ [])
    (behindDash : Bool)
    (dash : Dash)
    (rest : Text) :
    tightenAfter behindDash (dash.text ++ (word ++ rest)) =
      '-' :: (word ++ tightenAfter false rest) := by
  obtain ⟨char, later, rfl⟩ := List.exists_cons_of_ne_nil nonempty
  have visible := (solid char List.mem_cons_self).1
  rw [Dash.text, List.append_assoc, List.cons_append, tightenAfter_blank_append_dash,
    List.cons_append, tightenAfter_blank_append visible, ← List.cons_append,
    tightenAfter_word_append solid nonempty]

namespace Skeleton

/-- The clock: `hour.minute.second`, perhaps with a fraction behind a further point. -/
def clock (skeleton : Skeleton) : Text :=
  skeleton.hour ++ '.' :: (skeleton.minute ++ '.' :: (skeleton.second ++
    skeleton.fraction.elim [] ('.' :: ·)))

/-- A skeleton with white space around its dashes and in front of its clock. -/
def spaced (skeleton : Skeleton) (first second : Dash) (gap : Blank) : Text :=
  skeleton.day ++ (first.text ++ (skeleton.month ++ (second.text ++ (skeleton.year ++
    (gap.val ++ skeleton.clock)))))

/-- A skeleton that is written tightly. -/
def text (skeleton : Skeleton) : Text :=
  skeleton.spaced Dash.tight Dash.tight Blank.space

/-- A skeleton whose numbers have digits of the allowed counts. -/
structure IsWritten (skeleton : Skeleton) : Prop where
  day : IsNumeral isShort skeleton.day
  month : IsNumeral isShort skeleton.month
  year : IsNumeral isYearLength skeleton.year
  hour : IsNumeral isShort skeleton.hour
  minute : IsNumeral isShort skeleton.minute
  second : IsNumeral isShort skeleton.second
  fraction : ∀ digits ∈ skeleton.fraction, IsNumeral isFractionLength digits

namespace IsWritten

variable {skeleton : Skeleton}

theorem solid_clock (written : skeleton.IsWritten) :
    ∀ char ∈ skeleton.clock, isWhiteSpace char = false ∧ char ≠ '-' := by
  have point : isWhiteSpace '.' = false ∧ '.' ≠ '-' := ⟨rfl, by decide⟩
  have fraction : ∀ char ∈ skeleton.fraction.elim [] ('.' :: ·),
      isWhiteSpace char = false ∧ char ≠ '-' := by
    cases some : skeleton.fraction with
    | none => exact List.forall_mem_nil _
    | some digits => exact List.forall_mem_cons.mpr ⟨point, (written.fraction digits some).solid⟩
  simp only [clock, List.forall_mem_append, List.forall_mem_cons]
  exact ⟨written.hour.solid, point, written.minute.solid, point, written.second.solid, fraction⟩

/-- A skeleton is tightened to the way it is written tightly. -/
theorem tighten_spaced
    (written : skeleton.IsWritten)
    (first second : Dash)
    {gap : Blank}
    (nonempty : gap.val ≠ []) :
    tighten (skeleton.spaced first second gap) = skeleton.text := by
  have clock : tightenAfter false (gap.val ++ skeleton.clock) = ' ' :: skeleton.clock := by
    have solid := written.solid_clock
    have visible : skeleton.clock ≠ [] := by simp [Skeleton.clock]
    have word := tightenAfter_word_append solid visible false []
    obtain ⟨char, later, shape⟩ := List.exists_cons_of_ne_nil visible
    rw [shape] at solid word ⊢
    obtain ⟨⟨charVisible, noDash⟩, -⟩ := List.forall_mem_cons.mp solid
    rw [List.append_nil] at word
    rw [tightenAfter_gap_append charVisible noDash nonempty, word]
    exact congrArg (' ' :: ·) (List.append_nil _)
  have numbers : tighten (skeleton.spaced first second gap) =
      skeleton.day ++ '-' :: (skeleton.month ++ '-' :: (skeleton.year ++
        tightenAfter false (gap.val ++ skeleton.clock))) := by
    rw [tighten, ← tightenAfter, spaced,
      tightenAfter_word_append written.day.solid (written.day.ne_nil rfl),
      tightenAfter_dash_append written.month.solid (written.month.ne_nil rfl),
      tightenAfter_dash_append written.year.solid (written.year.ne_nil rfl)]
  rw [numbers, clock]
  rfl

/-- A skeleton starts and ends with a digit. -/
theorem trim_spaced (written : skeleton.IsWritten) (first second : Dash) (gap : Blank) :
    (skeleton.spaced first second gap).trim = skeleton.spaced first second gap := by
  apply Text.trim_eq_self
  · obtain ⟨char, later, day⟩ := List.exists_cons_of_ne_nil (written.day.ne_nil rfl)
    have solid := (written.day.solid char (day ▸ List.mem_cons_self)).1
    rw [spaced, day]
    rintro _ ⟨rfl⟩
    exact solid
  · have behind : skeleton.spaced first second gap = skeleton.day ++ (first.text ++
        (skeleton.month ++ (second.text ++ (skeleton.year ++ gap.val)))) ++ skeleton.clock := by
      simp [spaced]
    rw [behind, List.getLast?_append, Option.or_of_isSome (by simp [clock])]
    exact fun char member => (written.solid_clock char (List.mem_of_getLast? member)).1

end IsWritten

end Skeleton

/-! ## Reading skeletons -/

/-- Digits are read as far as they go. -/
theorem readDigits_append
    {allows : Nat → Bool}
    {digits rest : Text}
    (numeral : IsNumeral allows digits)
    (ends : ∀ char ∈ rest.head?, char.isDigit = false) :
    readDigits allows (digits ++ rest) = some (digits, rest) := by
  obtain ⟨taken, dropped⟩ := Digits.takeWhile_dropWhile_append numeral.2 ends
  unfold readDigits
  rw [taken, dropped]
  exact if_pos numeral.1

theorem readDigits_append_cons
    {allows : Nat → Bool}
    {digits : Text}
    (numeral : IsNumeral allows digits)
    (mark : Char)
    (noDigit : mark.isDigit = false)
    (rest : Text) :
    readDigits allows (digits ++ mark :: rest) = some (digits, mark :: rest) := by
  refine readDigits_append numeral fun char member => ?_
  obtain rfl := Option.some.inj member
  exact noDigit

theorem eq_append_of_readDigits
    {allows : Nat → Bool}
    {text digits rest : Text}
    (read : readDigits allows text = some (digits, rest)) :
    text = digits ++ rest ∧ IsNumeral allows digits := by
  refine ⟨?_, isDigit_of_readDigits read⟩
  unfold readDigits at read
  dsimp only at read
  split at read
  · cases read
    exact List.takeWhile_append_dropWhile.symm
  · cases read

theorem eq_cons_of_readMark
    {mark : Char}
    {text rest : Text}
    (read : readMark mark text = some rest) :
    text = mark :: rest := by
  cases text with
  | nil => cases read
  | cons char later =>
    rw [readMark] at read
    split at read
    · rename_i same
      rw [same, Option.some.inj read]
    · cases read

/-- The nanoseconds of a fraction, if there is one. -/
def nanosecondOf (fraction : Option Text) : Nat :=
  fraction.elim 0 fun digits => Digits.value (Digits.padRight 9 digits)

theorem readFraction_elim
    {fraction : Option Text}
    (numeral : ∀ digits ∈ fraction, IsNumeral isFractionLength digits) :
    readFraction (fraction.elim [] ('.' :: ·)) = some (nanosecondOf fraction, []) := by
  cases fraction with
  | none => rfl
  | some digits =>
    have read : readDigits isFractionLength digits = some (digits, []) := by
      have whole : readDigits isFractionLength (digits ++ []) = some (digits, []) :=
        readDigits_append (numeral digits rfl) (by simp)
      rwa [List.append_nil] at whole
    simp only [Option.elim_some, readFraction, if_true, read]
    rfl

theorem eq_elim_of_readFraction
    {text : Text}
    {nanosecond : Nat}
    (read : readFraction text = some (nanosecond, [])) :
    ∃ fraction : Option Text, text = fraction.elim [] ('.' :: ·) ∧
      ∀ digits ∈ fraction, IsNumeral isFractionLength digits := by
  cases text with
  | nil => exact ⟨none, rfl, by simp⟩
  | cons mark later =>
    rw [readFraction] at read
    split at read
    · rename_i point
      obtain ⟨⟨digits, behind⟩, taken, whole⟩ := Option.map_eq_some_iff.mp read
      obtain ⟨rfl, numeral⟩ := eq_append_of_readDigits taken
      cases whole
      refine ⟨some digits, by rw [point, List.append_nil]; rfl, ?_⟩
      rintro _ ⟨rfl⟩
      exact numeral
    · cases read

namespace Skeleton

/-- The timestamp that the digits of a skeleton stand for, if they stand for one. -/
def timestamp? (skeleton : Skeleton) : Option Timestamp := do
  let date ← Date.of? (yearOfDigits skeleton.year) (Digits.value skeleton.month)
    (Digits.value skeleton.day)
  let time ← TimeOfDay.of? (Digits.value skeleton.hour) (Digits.value skeleton.minute)
    (Digits.value skeleton.second) (nanosecondOf skeleton.fraction)
  pure ⟨date, time⟩

/-- A skeleton that is written tightly is read. -/
theorem IsWritten.ofSkeleton?_text {skeleton : Skeleton} (written : skeleton.IsWritten) :
    ofSkeleton? skeleton.text = skeleton.timestamp? := by
  have mark (mark : Char) (rest : Text) : readMark mark (mark :: rest) = some rest := if_pos rfl
  have shape : skeleton.text = skeleton.day ++ '-' :: (skeleton.month ++ '-' :: (skeleton.year ++
      ' ' :: (skeleton.hour ++ '.' :: (skeleton.minute ++ '.' :: (skeleton.second ++
        skeleton.fraction.elim [] ('.' :: ·)))))) := rfl
  have second : readDigits isShort (skeleton.second ++ skeleton.fraction.elim [] ('.' :: ·)) =
      some (skeleton.second, skeleton.fraction.elim [] ('.' :: ·)) := by
    refine readDigits_append written.second ?_
    cases skeleton.fraction with
    | none => simp
    | some digits =>
      rintro _ ⟨rfl⟩
      rfl
  rw [shape, ofSkeleton?]
  simp only [readDigits_append_cons written.day '-' rfl,
    readDigits_append_cons written.month '-' rfl, readDigits_append_cons written.year ' ' rfl,
    readDigits_append_cons written.hour '.' rfl, readDigits_append_cons written.minute '.' rfl,
    second, mark, readFraction_elim written.fraction, bind, Option.bind_some, timestamp?]
  rfl

end Skeleton

/-- Only a skeleton that is written tightly is read. -/
theorem exists_skeleton_of_ofSkeleton?
    {text : Text}
    {timestamp : Timestamp}
    (spelled : ofSkeleton? text = some timestamp) :
    ∃ skeleton : Skeleton, skeleton.IsWritten ∧ text = skeleton.text := by
  obtain ⟨⟨day, behindDay⟩, readDay, spelled⟩ := Option.bind_eq_some_iff.mp spelled
  obtain ⟨behindFirst, readFirst, spelled⟩ := Option.bind_eq_some_iff.mp spelled
  obtain ⟨⟨month, behindMonth⟩, readMonth, spelled⟩ := Option.bind_eq_some_iff.mp spelled
  obtain ⟨behindSecond, readSecond, spelled⟩ := Option.bind_eq_some_iff.mp spelled
  obtain ⟨⟨year, behindYear⟩, readYear, spelled⟩ := Option.bind_eq_some_iff.mp spelled
  obtain ⟨clock, readGap, spelled⟩ := Option.bind_eq_some_iff.mp spelled
  obtain ⟨⟨hour, behindHour⟩, readHour, spelled⟩ := Option.bind_eq_some_iff.mp spelled
  obtain ⟨behindPoint, readPoint, spelled⟩ := Option.bind_eq_some_iff.mp spelled
  obtain ⟨⟨minute, behindMinute⟩, readMinute, spelled⟩ := Option.bind_eq_some_iff.mp spelled
  obtain ⟨behindOther, readOther, spelled⟩ := Option.bind_eq_some_iff.mp spelled
  obtain ⟨⟨second, behindSeconds⟩, readSeconds, spelled⟩ := Option.bind_eq_some_iff.mp spelled
  obtain ⟨⟨nanosecond, rest⟩, readRest, spelled⟩ := Option.bind_eq_some_iff.mp spelled
  obtain ⟨date, -, spelled⟩ := Option.bind_eq_some_iff.mp spelled
  obtain ⟨time, -, spelled⟩ := Option.bind_eq_some_iff.mp spelled
  obtain rfl : rest = [] := by
    cases rest with
    | nil => rfl
    | cons char later => cases spelled
  obtain ⟨fraction, behindSecondsEquality, isFraction⟩ := eq_elim_of_readFraction readRest
  obtain ⟨textEquality, isDay⟩ := eq_append_of_readDigits readDay
  obtain ⟨behindFirstEquality, isMonth⟩ := eq_append_of_readDigits readMonth
  obtain ⟨behindSecondEquality, isYear⟩ := eq_append_of_readDigits readYear
  obtain ⟨clockEquality, isHour⟩ := eq_append_of_readDigits readHour
  obtain ⟨behindPointEquality, isMinute⟩ := eq_append_of_readDigits readMinute
  obtain ⟨behindOtherEquality, isSecond⟩ := eq_append_of_readDigits readSeconds
  refine ⟨⟨day, month, year, hour, minute, second, fraction⟩,
    ⟨isDay, isMonth, isYear, isHour, isMinute, isSecond, isFraction⟩, ?_⟩
  rw [textEquality, eq_cons_of_readMark readFirst, behindFirstEquality,
    eq_cons_of_readMark readSecond, behindSecondEquality, eq_cons_of_readMark readGap,
    clockEquality, eq_cons_of_readMark readPoint, behindPointEquality,
    eq_cons_of_readMark readOther, behindOtherEquality, behindSecondsEquality]
  rfl

/-- Trying a text as it stands makes no difference: what is read then is tight already. -/
theorem ofSkeleton?_or_tighten (text : Text) :
    (ofSkeleton? text).or (ofSkeleton? (tighten text)) = ofSkeleton? (tighten text) := by
  cases spelled : ofSkeleton? text with
  | none => rfl
  | some timestamp =>
    obtain ⟨skeleton, written, rfl⟩ := exists_skeleton_of_ofSkeleton? spelled
    have tight : tighten skeleton.text = skeleton.text :=
      written.tighten_spaced Dash.tight Dash.tight (List.cons_ne_nil _ _)
    rw [tight, spelled]
    rfl

end Localized
end SqlDump
