import SqlDump.Proofs.Renaming

/-!
# Rewriting dates a second time

Once its dates with a time of day are timestamps, a text has no such date any more.  The word that
replaces a date is no part of another one, and what stands behind a word decides alike before and
after whether the word starts a date.
-/

namespace SqlDump
namespace DateLiteral

open Unicode (isWordCharacter isDecimalDigit)

/-! ## What replaces the first character of a text -/

theorem eq_of_sameLetter_date {char : Char} (same : Text.sameLetter 'D' char = true) :
    char = 'D' ∨ char = 'd' := by
  have lower : 'D'.toLower = char.toLower := beq_iff_eq.mp same
  have point := congrArg Char.toNat lower
  have small : 'D'.toLower.toNat = 100 := rfl
  rw [small, Text.toNat_toLower] at point
  split at point
  · left
    apply Char.toNat_inj.mp
    change char.toNat = 68
    omega
  · right
    apply Char.toNat_inj.mp
    change char.toNat = 100
    omega

/-- The first letters of the two words stand nowhere in a date or a time. -/
theorem apart_of_word
    {char : Char}
    (first : char = 'T' ∨ char = 'D' ∨ char = 'd') :
    char ≠ '\'' ∧ char ≠ '.' ∧ isDecimalDigit char = false ∧ char ∉ template := by
  rcases first with rfl | rfl | rfl <;> decide +kernel

/-- A text keeps its first character, or the word TIMESTAMP replaces a D. -/
theorem normalizeAfter_cons_cases (previous : Option Char) (char : Char) (rest : Text) :
    normalizeAfter previous (char :: rest) = char :: normalizeAfter (some char) rest ∨
      (char = 'D' ∨ char = 'd') ∧
        ∃ later, normalizeAfter previous (char :: rest) = 'T' :: later := by
  by_cases starts : startsDate (char :: rest) = true
  · rcases rest with _ | ⟨second, _ | ⟨third, _ | ⟨fourth, later⟩⟩⟩
    · cases starts
    · cases starts
    · cases starts
    · rw [normalizeAfter]
      split
      · simp only [startsDate, Keyword.date, Text.startsWith, Bool.and_eq_true] at starts
        exact .inr ⟨eq_of_sameLetter_date starts.1.1, _, rfl⟩
      · exact .inl rfl
  · exact .inl (normalizeAfter_cons_of_not _ _ _ (Bool.eq_false_iff.mpr starts))

/-! ## What stands behind a word -/

theorem head?_dropWhile_normalizeAfter (previous : Option Char) (text : Text) :
    ((normalizeAfter previous text).dropWhile isDecimalDigit).head? = some '\'' ↔
      (text.dropWhile isDecimalDigit).head? = some '\'' := by
  induction text generalizing previous with
  | nil => rfl
  | cons char rest inductionHypothesis =>
    rcases normalizeAfter_cons_cases previous char rest with kept | ⟨first, later, replaced⟩
    · rw [kept, List.dropWhile_cons, List.dropWhile_cons]
      split
      · exact inductionHypothesis (some char)
      · rfl
    · obtain ⟨noQuote, -, noDigit, -⟩ := apart_of_word (.inr first)
      obtain ⟨-, -, noDigitBehind, -⟩ := apart_of_word (.inl (Eq.refl 'T'))
      simp [replaced, noDigit, noDigitBehind, noQuote]

theorem endsFraction_normalizeAfter (previous : Option Char) (text : Text) :
    endsFraction (normalizeAfter previous text) = endsFraction text := by
  cases text with
  | nil => rfl
  | cons char rest =>
    rcases normalizeAfter_cons_cases previous char rest with kept | ⟨first, later, replaced⟩
    · have head := head?_dropWhile_normalizeAfter (some char) rest
      rw [kept, endsFraction, endsFraction, Bool.eq_iff_iff, Bool.and_eq_true, Bool.and_eq_true,
        beq_iff_eq, beq_iff_eq, head]
    · obtain ⟨-, -, noDigit, -⟩ := apart_of_word (.inr first)
      obtain ⟨-, -, noDigitBehind, -⟩ := apart_of_word (.inl (Eq.refl 'T'))
      rw [replaced, endsFraction, endsFraction, noDigit, noDigitBehind, Bool.false_and,
        Bool.false_and]

/-- Rewriting dates leaves every part of a time of day what it is. -/
theorem completes_normalizeAfter
    (previous : Option Char)
    (text : Text)
    {rest : Text}
    (part : rest <:+ template) :
    completes rest (normalizeAfter previous text) = completes rest text := by
  induction text generalizing previous rest with
  | nil => rfl
  | cons char later inductionHypothesis =>
    rcases normalizeAfter_cons_cases previous char later with kept | ⟨first, behind, replaced⟩
    · rw [kept]
      cases rest with
      | nil =>
        change endsTime _ = endsTime _
        rw [endsTime_cons, endsTime_cons, endsFraction_normalizeAfter]
      | cons expected rest =>
        rw [completes_cons_cons, completes_cons_cons,
          inductionHypothesis (some char) ((List.suffix_cons expected rest).trans part)]
    · obtain ⟨noQuote, noPoint, noDigit, unexpected⟩ := apart_of_word (.inr first)
      obtain ⟨noQuote', noPoint', noDigit', unexpected'⟩ := apart_of_word (.inl (Eq.refl 'T'))
      rw [replaced, completes_cons_of_not noQuote noPoint noDigit unexpected part,
        completes_cons_of_not noQuote' noPoint' noDigit' unexpected' part]

theorem hasTime_normalizeAfter (previous : Option Char) (text : Text) :
    hasTime (normalizeAfter previous text) = hasTime text := by
  rw [hasTime_eq_completes, hasTime_eq_completes, completes_normalizeAfter _ _ List.suffix_rfl]

/-! ## A second time -/

/-- Behind any two characters that are both part of a word, or both not, a text is rewritten
alike. -/
theorem normalizeAfter_congr
    {previous other : Option Char}
    (alike : previous.any isWordCharacter = other.any isWordCharacter)
    (text : Text) :
    normalizeAfter previous text = normalizeAfter other text := by
  rcases text with _ | ⟨first, _ | ⟨second, _ | ⟨third, _ | ⟨fourth, rest⟩⟩⟩⟩
  · rfl
  · rfl
  · rfl
  · rfl
  · rw [normalizeAfter, normalizeAfter, alike]

/-- Inside a word no date starts. -/
theorem normalizeAfter_cons_of_inWord
    {previous : Option Char}
    (inWord : previous.any isWordCharacter = true)
    (char : Char)
    (rest : Text) :
    normalizeAfter previous (char :: rest) = char :: normalizeAfter (some char) rest := by
  rcases rest with _ | ⟨second, _ | ⟨third, _ | ⟨fourth, later⟩⟩⟩
  · rfl
  · rfl
  · rfl
  · rw [normalizeAfter, inWord]
    exact if_neg (by simp)

/-- Behind a letter a text keeps the word it starts with, and what follows the word is rewritten on
its own. -/
theorem startsWith_normalizeAfter
    {word : Text}
    (letters : ∀ letter ∈ word, letter.isAlpha = true)
    {letter : Char}
    (isLetter : letter.isAlpha = true)
    (text : Text) :
    Text.startsWith word (normalizeAfter (some letter) text) = Text.startsWith word text ∧
      (Text.startsWith word text = true → ∃ previous,
        (normalizeAfter (some letter) text).drop word.length =
          normalizeAfter previous (text.drop word.length)) := by
  induction word generalizing letter text with
  | nil => exact ⟨rfl, fun _ => ⟨some letter, rfl⟩⟩
  | cons expected word inductionHypothesis =>
    obtain ⟨first, others⟩ := List.forall_mem_cons.mp letters
    cases text with
    | nil => exact ⟨rfl, fun starts => absurd starts Bool.false_ne_true⟩
    | cons char rest =>
      have inWord : (some letter).any isWordCharacter = true := isWordCharacter_of_isAlpha isLetter
      rw [normalizeAfter_cons_of_inWord inWord, Text.startsWith, Text.startsWith]
      cases same : Text.sameLetter expected char with
      | false => exact ⟨rfl, fun starts => absurd starts Bool.false_ne_true⟩
      | true => exact inductionHypothesis others (Text.isAlpha_of_sameLetter same first) rest

theorem startsDate_eq (char : Char) (rest : Text) :
    startsDate (char :: rest) =
      (Text.sameLetter 'D' char && (Text.startsWith ['A', 'T', 'E'] rest && hasTime (rest.drop 3))) := by
  rcases rest with _ | ⟨second, _ | ⟨third, _ | ⟨fourth, later⟩⟩⟩
  · simp [startsDate, Text.startsWith]
  · simp [startsDate, Text.startsWith]
  · simp [startsDate, Text.startsWith]
  · simp [startsDate, Text.startsWith, Keyword.date, Bool.and_assoc]

/-- Rewriting what stands behind a character neither makes nor undoes a date that starts there. -/
theorem startsDate_normalizeAfter (char : Char) (rest : Text) :
    startsDate (char :: normalizeAfter (some char) rest) = startsDate (char :: rest) := by
  rw [startsDate_eq, startsDate_eq]
  cases same : Text.sameLetter 'D' char with
  | false => rfl
  | true =>
    have letters : ∀ letter ∈ ['A', 'T', 'E'], letter.isAlpha = true := List.all_eq_true.mp rfl
    obtain ⟨word, behind⟩ :=
      startsWith_normalizeAfter letters (Text.isAlpha_of_sameLetter same rfl) rest
    rw [word]
    cases starts : Text.startsWith ['A', 'T', 'E'] rest with
    | false => rfl
    | true =>
      obtain ⟨previous, dropped⟩ := behind starts
      have time : hasTime ((normalizeAfter (some char) rest).drop 3) = hasTime (rest.drop 3) :=
        (congrArg hasTime dropped).trans (hasTime_normalizeAfter previous _)
      rw [time]

/-- Rewriting dates a second time changes nothing. -/
theorem normalizeAfter_normalizeAfter (previous : Option Char) (text : Text) :
    normalizeAfter previous (normalizeAfter previous text) = normalizeAfter previous text := by
  fun_induction normalizeAfter previous text with
  | case1 previous first second third fourth rest found inductionHypothesis =>
    have all : Keyword.timestamp.all (!Text.sameLetter 'D' ·) = true := rfl
    have other : ∀ char ∈ Keyword.timestamp, Text.sameLetter 'D' char = false := by
      intro char member
      simpa using List.all_eq_true.mp all char member
    simp only [Bool.and_eq_true] at found
    have isLetter : fourth.isAlpha = true :=
      (letters_of_startsWith_date found.1.2).1 fourth (by simp)
    have alike : (some 'P').any isWordCharacter = (some fourth).any isWordCharacter :=
      (isWordCharacter_of_isAlpha rfl).trans (isWordCharacter_of_isAlpha isLetter).symm
    rw [normalizeAfter_append_of_not _ _ _ other]
    congr 1
    exact (normalizeAfter_congr alike _).trans inductionHypothesis
  | case2 previous first second third fourth rest refused inductionHypothesis =>
    cases inWord : previous.any isWordCharacter with
    | true => rw [normalizeAfter_cons_of_inWord inWord, inductionHypothesis]
    | false =>
      have noDate : startsDate (first :: second :: third :: fourth :: rest) = false := by
        simpa [inWord, startsDate] using refused
      rw [← startsDate_normalizeAfter] at noDate
      rw [normalizeAfter_cons_of_not _ _ _ noDate, inductionHypothesis]
  | case3 previous short isShort =>
    rcases short with _ | ⟨first, _ | ⟨second, _ | ⟨third, _ | ⟨fourth, rest⟩⟩⟩⟩
    · rfl
    · rfl
    · rfl
    · rfl
    · exact (isShort _ _ _ _ _ rfl).elim

theorem normalize_normalize (text : Text) : normalize (normalize text) = normalize text :=
  normalizeAfter_normalizeAfter none text

/-- It does not matter whether a text is trimmed before its dates are rewritten or after. -/
theorem normalize_trim (text : Text) : normalize text.trim = (normalize text).trim := by
  obtain ⟨before, after, beforeBlank, afterBlank, whole⟩ := text.exists_trim_between
  have trimmed : (normalize text.trim).trim = normalize text.trim :=
    (Renamed.normalizeAfter none _).trimmed text.trim_trim
  have rewritten : normalize text = before ++ normalize text.trim ++ after := by
    conv => lhs; rw [whole]
    rw [normalize, normalizeAfter_append_blank _ _ _ afterBlank,
      normalizeAfter_blank_append _ _ _ beforeBlank fun _ => rfl]
  rw [rewritten, Text.trim_append_blank _ _ afterBlank,
    Text.trim_append_of_isBlank _ _ beforeBlank, trimmed]

/-- Rewriting dates makes no text shorter. -/
theorem length_le_normalizeAfter (previous : Option Char) (text : Text) :
    text.length ≤ (normalizeAfter previous text).length := by
  fun_induction normalizeAfter previous text with
  | case1 previous first second third fourth rest found inductionHypothesis =>
    have word : Keyword.timestamp.length = 9 := rfl
    rw [List.length_append, word]
    simp only [List.length_cons]
    omega
  | case2 previous first second third fourth rest refused inductionHypothesis =>
    rw [List.length_cons, List.length_cons]
    exact Nat.succ_le_succ inductionHypothesis
  | case3 previous short isShort => exact Nat.le_refl _

/-- A text without dates to be rewritten has none in front of a parenthesis either. -/
theorem normalize_of_append_cons
    {front back : Text}
    (kept : normalize (front ++ '(' :: back) = front ++ '(' :: back) :
    normalize front = front := by
  rw [normalize_append_cons front '(' back (.inl rfl)] at kept
  have frontLonger : front.length ≤ (normalize front).length := length_le_normalizeAfter none front
  have backLonger : back.length ≤ (normalize back).length := length_le_normalizeAfter none back
  have whole := congrArg List.length kept
  rw [List.length_append, List.length_append, List.length_cons, List.length_cons] at whole
  have sameLength : (normalize front).length = front.length := by omega
  exact (List.append_inj kept sameLength).1

end DateLiteral
end SqlDump
