import SqlDump.Proofs.Literals
import SqlDump.Proofs.Renaming
import SqlDump.Proofs.WrittenInsert

/-!
# Literals as they are written

A dump writes the null value, numbers, strings, dates and timestamps, and conversions of strings to
timestamps.  Each of them can stand in a value list, and a date or a timestamp is classified by its
word, with the text between its quotes as it is written.
-/

namespace SqlDump

open Unicode (isWhiteSpace)

namespace Insert

/-! ## Literals -/

/-- A complete string. -/
inductive IsString : Text → Prop where
  | quote (body : Text) : IsString (Quoted.quote '\'' body)

/-- The characters of a number: digits, signs, the point and the letter in front of an exponent. -/
def isNumberCharacter (char : Char) : Bool :=
  char.isDigit || ['+', '-', '.', 'e', 'E'].contains char

/-- The literals of a dump: the null value, a number, a string, a date or timestamp, and the
conversion of strings to a timestamp. -/
inductive IsLiteral : Text → Prop where
  | null {word : Text}
      (same : Text.sameLetters Keyword.null word = true) :
      IsLiteral word
  | number {text : Text}
      (nonempty : text ≠ [])
      (characters : ∀ char ∈ text, isNumberCharacter char = true) :
      IsLiteral text
  | string (body : Text) : IsLiteral (Quoted.quote '\'' body)
  | date {word : Text}
      (same : Text.sameLetters Keyword.date word = true)
      (gap : Blank)
      (body : Text) :
      IsLiteral (word ++ (gap.val ++ Quoted.quote '\'' body))
  | timestamp {word : Text}
      (same : Text.sameLetters Keyword.timestamp word = true)
      (gap : Blank)
      (body : Text) :
      IsLiteral (word ++ (gap.val ++ Quoted.quote '\'' body))
  | conversion {word : Text}
      (same : Text.sameLetters Keyword.toTimestamp word = true)
      (gap : Blank)
      (arguments : List (Part IsString)) :
      IsLiteral (word ++ (gap.val ++ '(' :: (listed arguments ++ [')'])))

theorem isNumberCharacter_iff (char : Char) :
    isNumberCharacter char = true ↔
      char.isDigit = true ∨ char = '+' ∨ char = '-' ∨ char = '.' ∨ char = 'e' ∨ char = 'E' := by
  simp [isNumberCharacter]

/-- The characters of a number delimit nothing, are no white space and start no date. -/
theorem ordinary_of_isNumberCharacter {char : Char} (number : isNumberCharacter char = true) :
    isDelimiter char = false ∧ isWhiteSpace char = false ∧
      Text.sameLetter 'D' char = false := by
  rcases (isNumberCharacter_iff char).mp number with digit | rfl | rfl | rfl | rfl | rfl
  · have inWord := Keyword.continuesWord_of_isDigit digit
    refine ⟨?_, Keyword.isWhiteSpace_of_continuesWord inWord, ?_⟩
    · rw [isDelimiter_eq_false]
      refine ⟨?_, ?_, ?_, ?_, ?_⟩ <;> rintro rfl <;> exact absurd digit (by decide)
    · rw [Bool.eq_false_iff]
      intro same
      have letter := Text.isAlpha_of_sameLetter same rfl
      rw [Text.isAlpha_of_isDigit digit] at letter
      exact Bool.false_ne_true letter
  all_goals decide

end Insert

/-! ## Dates and timestamps -/

theorem Text.startsWith_append_append
    {word text : Text}
    (same : sameLetters word text = true)
    (lead rest : Text) :
    startsWith (word ++ lead) (text ++ rest) = startsWith lead rest := by
  induction word generalizing text with
  | nil => rw [(sameLetters_nil_iff text).mp same, List.nil_append, List.nil_append]
  | cons letter word inductionHypothesis =>
    obtain ⟨char, later, rfl, sameFirst, sameRest⟩ := (sameLetters_cons_iff _ _ _).mp same
    rw [List.cons_append, List.cons_append, startsWith, sameFirst, Bool.true_and,
      inductionHypothesis sameRest]

namespace Literal

open SqlDump.Insert

/-- What stands between the quotes of a text is read as it is written. -/
theorem quotedBody_marks (body : Text) :
    quotedBody (' ' :: '\'' :: (body ++ ['\''])) = body := by
  have trimmed : Text.trim (' ' :: '\'' :: (body ++ ['\''])) = '\'' :: (body ++ ['\'']) := by
    refine (Text.trim_append_of_isBlank [' '] _ Text.isBlank_space).trans (Text.trim_eq_self ?_ ?_)
    · rintro _ ⟨rfl⟩
      rfl
    · rw [← List.cons_append, List.getLast?_concat]
      rintro _ ⟨rfl⟩
      rfl
  rw [quotedBody, trimmed]
  simp

/-- A text that starts with a word and ends with a mark has no white space at its ends. -/
theorem trim_word_append
    {letter : Char}
    {keyword word : Text}
    (same : Text.sameLetters (letter :: keyword) word = true)
    (isLetter : letter.isAlpha = true)
    (middle : Text)
    {mark : Char}
    (solid : isWhiteSpace mark = false) :
    (word ++ (middle ++ [mark])).trim = word ++ (middle ++ [mark]) := by
  obtain ⟨char, rest, rfl, start⟩ := Written.exists_cons_of_sameLetters same isLetter
  apply Text.trim_eq_self
  · rintro _ ⟨rfl⟩
    exact start
  · rw [← List.append_assoc, List.getLast?_concat]
    rintro _ ⟨rfl⟩
    exact solid

theorem startsWith_of_other
    {letter other : Char}
    {keyword word : Text}
    (same : Text.sameLetters (letter :: keyword) word = true)
    (differs : Text.sameLetter other letter = false)
    (lead rest : Text) :
    Text.startsWith (other :: lead) (word ++ rest) = false := by
  obtain ⟨char, later, rfl, sameFirst, -⟩ := (Text.sameLetters_cons_iff _ _ _).mp same
  rw [List.cons_append, Text.startsWith, Text.sameLetter_congr sameFirst, differs, Bool.false_and]

theorem noNull_of_other
    {letter : Char}
    {keyword word : Text}
    (same : Text.sameLetters (letter :: keyword) word = true)
    (differs : Text.sameLetter 'N' letter = false)
    (rest : Text) :
    Text.sameLetters Keyword.null (word ++ rest) = false := by
  rw [Text.sameLetters, Keyword.null, startsWith_of_other same differs, Bool.and_false]

/-- A date holds what stands between its quotes, quotes included. -/
theorem classify_date_marks
    {word : Text}
    (same : Text.sameLetters Keyword.date word = true)
    (body : Text) :
    classify (word ++ ' ' :: '\'' :: (body ++ ['\''])) = .ok (.date body) := by
  have trimmed : (word ++ ' ' :: '\'' :: (body ++ ['\''])).trim =
      word ++ ' ' :: '\'' :: (body ++ ['\'']) :=
    trim_word_append same rfl (' ' :: '\'' :: body) rfl
  have length : Keyword.date.length = word.length := (Text.length_of_sameLetters same).symm
  simp only [classify, trimmed, noNull_of_other same rfl, Text.startsWith_append_append same, length,
    List.drop_left, quotedBody_marks]
  rfl

/-- A timestamp holds what stands between its quotes, quotes included. -/
theorem classify_timestamp_marks
    {word : Text}
    (same : Text.sameLetters Keyword.timestamp word = true)
    (body : Text) :
    classify (word ++ ' ' :: '\'' :: (body ++ ['\''])) = .ok (.timestamp body) := by
  have trimmed : (word ++ ' ' :: '\'' :: (body ++ ['\''])).trim =
      word ++ ' ' :: '\'' :: (body ++ ['\'']) :=
    trim_word_append same rfl (' ' :: '\'' :: body) rfl
  have noDate : Text.startsWith (Keyword.date ++ [' ', '\''])
      (word ++ ' ' :: '\'' :: (body ++ ['\''])) = false :=
    startsWith_of_other same rfl _ _
  have length : Keyword.timestamp.length = word.length := (Text.length_of_sameLetters same).symm
  simp only [classify, trimmed, noNull_of_other same rfl, noDate, Text.startsWith_append_append same,
    length, List.drop_left, quotedBody_marks]
  rfl

end Literal

/-! ## Literals are values -/

namespace Insert

theorem IsString.valueText {text : Text} (string : IsString text) (inGroup : Bool) :
    ValueText inGroup text := by
  cases string with
  | quote body =>
    rw [← List.append_nil (Quoted.quote '\'' body)]
    exact .string body (.nil inGroup)

theorem valueText_listed (strings : List (Part IsString)) : ValueText true (listed strings) := by
  have padded (string : Part IsString) : ValueText true string.padded :=
    ((ValueText.blank true string.before).append (string.isKind.valueText true)).append
      (.blank true string.after)
  induction strings with
  | nil => exact .nil true
  | cons string rest inductionHypothesis =>
    by_cases final : rest = []
    · rw [final, listed_singleton]
      exact padded string
    · rw [listed_cons string final]
      exact (padded string).append (.comma inductionHypothesis)

theorem ordinary_of_mem_word
    {keyword word : Text}
    (same : Text.sameLetters keyword word = true)
    (other : keyword.all
      (fun letter => ['\'', '"', '(', ')', ','].all (!Text.sameLetter letter ·)) = true) :
    ∀ char ∈ word, isDelimiter char = false := by
  refine Text.forall_mem_of_sameLetters same fun letter member char sameChar => ?_
  rw [Bool.eq_false_iff]
  intro delimiter
  have apart := List.all_eq_true.mp (List.all_eq_true.mp other letter member) char
    (List.contains_iff_mem.mp delimiter)
  rw [sameChar] at apart
  exact Bool.false_ne_true apart

/-- A word with a value behind it is a value, if it ends with a mark. -/
theorem isValue_word_append
    {letter : Char}
    {keyword word middle : Text}
    (same : Text.sameLetters (letter :: keyword) word = true)
    (isLetter : letter.isAlpha = true)
    (other : (letter :: keyword).all
      (fun letter => ['\'', '"', '(', ')', ','].all (!Text.sameLetter letter ·)) = true)
    {mark : Char}
    (solid : isWhiteSpace mark = false)
    (value : ValueText false (middle ++ [mark])) :
    IsValue (word ++ (middle ++ [mark])) where
  written := (ValueText.of_forall (ordinary_of_mem_word same other)).append value
  nonempty := by simp
  trimmed := Literal.trim_word_append same isLetter middle solid

/-- A literal can be written in a value list. -/
theorem IsLiteral.isValue {text : Text} (literal : IsLiteral text) : IsValue text := by
  have ofOrdinary (nonempty : text ≠ [])
      (ordinary : ∀ char ∈ text, isDelimiter char = false ∧ isWhiteSpace char = false) :
      IsValue text := by
    refine ⟨?_, nonempty, Text.trim_eq_self ?_ ?_⟩
    · exact .of_forall fun char member => (ordinary char member).1
    · exact fun char member => (ordinary char (List.mem_of_mem_head? member)).2
    · exact fun char member => (ordinary char (List.mem_of_mem_getLast? member)).2
  have ofDated (gap : Blank) (body : Text) :
      ValueText false ((gap.val ++ '\'' :: Quoted.double '\'' body) ++ ['\'']) := by
    rw [List.append_assoc]
    exact (ValueText.blank false gap).append ((IsString.quote body).valueText false)
  cases literal with
  | null same =>
    have letters := Text.isAlpha_of_sameLetters same (List.all_eq_true.mp rfl)
    refine ofOrdinary ?_ fun char member => ?_
    · obtain ⟨char, rest, rfl, -⟩ := (Text.sameLetters_cons_iff _ _ _).mp same
      exact List.cons_ne_nil _ _
    · exact ⟨isDelimiter_of_isAlpha (letters char member),
        Text.isWhiteSpace_of_isAlpha (letters char member)⟩
  | number nonempty characters =>
    refine ofOrdinary nonempty fun char member => ?_
    obtain ⟨ordinary, solid, -⟩ := ordinary_of_isNumberCharacter (characters char member)
    exact ⟨ordinary, solid⟩
  | string body =>
    exact ⟨(IsString.quote body).valueText false, List.cons_ne_nil _ _, trim_quote '\'' body rfl⟩
  | @date word same gap body =>
    have value := isValue_word_append same rfl rfl rfl (ofDated gap body)
    rwa [List.append_assoc] at value
  | @timestamp word same gap body =>
    have value := isValue_word_append same rfl rfl rfl (ofDated gap body)
    rwa [List.append_assoc] at value
  | @conversion word same gap arguments =>
    have call : ValueText false ((gap.val ++ '(' :: listed arguments) ++ [')']) := by
      rw [List.append_assoc]
      exact (ValueText.blank false gap).append (.group (valueText_listed arguments) (.nil false))
    have value := isValue_word_append same rfl rfl rfl call
    rwa [List.append_assoc] at value

end Insert

end SqlDump
