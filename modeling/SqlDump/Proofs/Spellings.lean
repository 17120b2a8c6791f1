import SqlDump.Proofs.WrittenLiterals

/-!
# Spellings of literals

A literal is spelled in many ways: its keyword in any case of its letters, with any white space
around it and around the arguments of a call.  Whatever the texts in it say, every spelling is
classified as the literal it was made from.
-/

namespace SqlDump
namespace Literal

open SqlDump.Insert

/-- A string as an argument of a call, with the white space around it. -/
structure Argument where
  before : Blank
  body : Text
  after : Blank

/-- An argument is written as a value is. -/
def Argument.part (argument : Argument) : Part IsValue where
  before := argument.before
  text := Quoted.quote '\'' argument.body
  isKind := (IsLiteral.string argument.body).isValue
  after := argument.after

/-- A literal with all that its text leaves open. -/
inductive Spelling where
  /-- The null value. -/
  | null (word : Spelled Keyword.null)
  /-- A date, with any text between its quotes. -/
  | date (word : Spelled Keyword.date) (body : Text)
  /-- A timestamp, with any text between its quotes. -/
  | timestamp (word : Spelled Keyword.timestamp) (body : Text)
  /-- A conversion, of any strings. -/
  | conversion (word : Spelled Keyword.toTimestamp) (value format : Argument)
      (language : Option Argument)
  /-- A string. -/
  | string (body : Text)
  /-- An integer of 64 bits. -/
  | integer (value : Int) (fits : Integer.FitsInt64 value)

namespace Spelling

/-- The arguments of a conversion. -/
def arguments (value format : Argument) (language : Option Argument) : List Argument :=
  value :: format :: language.toList

/-- The text of a spelling.  Dates and timestamps hold their text as it is, and strings with every
quote doubled. -/
def text : Spelling → Text
  | null word => word.val
  | date word body | timestamp word body => word.val ++ ' ' :: '\'' :: (body ++ ['\''])
  | conversion word value format language =>
    word.val ++ '(' :: (listed ((arguments value format language).map Argument.part) ++ [')'])
  | string body => Quoted.quote '\'' body
  | integer value _ => Integer.toText value

/-- What a spelling spells. -/
def literal : Spelling → Literal
  | null _ => .null
  | date _ body => .date body
  | timestamp _ body => .timestamp body
  | conversion _ value format language =>
    .toTimestamp value.body format.body (language.map Argument.body)
  | string body => .string body
  | integer value _ => .integer value

end Spelling

/-! ## The arguments of a call -/

/-- White space around a literal does not count. -/
theorem classify_padded (token : Text) (before after : Blank) :
    classify (before.val ++ token ++ after.val) = classify token := by
  rw [classify, Text.trim_append_blank _ _ after.property,
    Text.trim_append_of_isBlank _ _ before.property]
  rfl

/-- Written arguments are read back as strings. -/
theorem string?_items (arguments : List Argument) :
    (valueItems (listed (arguments.map Argument.part))).map Quoted.string? =
      arguments.map (some ∘ Argument.body) := by
  rw [valueItems_listed, List.map_map, List.map_map]
  apply List.map_congr_left
  intro argument _
  exact Quoted.string?_quote argument.body

theorem ofCall_conversion
    {word : Text}
    (noParenthesis : '(' ∉ word)
    (value format : Argument)
    (language : Option Argument) :
    ofCall (word ++
        '(' :: (listed ((Spelling.arguments value format language).map Argument.part) ++ [')'])) =
      .ok (.toTimestamp value.body format.body (language.map Argument.body)) := by
  rw [ofCall, callArguments?_of_opening noParenthesis, callArguments?_of_closing _ List.not_mem_nil]
  simp only [string?_items]
  cases language <;> rfl

/-! ## Words -/

/-- The null value is spelled in any case. -/
theorem classify_of_null
    {word : Text}
    (same : Text.sameLetters Keyword.null word = true) :
    classify word = .ok .null := by
  have letters := Text.isAlpha_of_sameLetters same (List.all_eq_true.mp rfl)
  have solid : ∀ char ∈ word, Unicode.isWhiteSpace char = false := fun char member =>
    Text.isWhiteSpace_of_isAlpha (letters char member)
  have trimmed : word.trim = word := by
    apply Text.trim_eq_self
    · exact fun char member => solid char (List.mem_of_mem_head? member)
    · exact fun char member => solid char (List.mem_of_mem_getLast? member)
  simp only [classify, trimmed, same, if_true]

/-- No date and no timestamp starts with the name of the conversion. -/
theorem startsWith_of_toTimestamp
    {word : Text}
    (same : Text.sameLetters Keyword.toTimestamp word = true)
    (lead rest : Text) :
    Text.startsWith ('D' :: lead) (word ++ rest) = false ∧
      Text.startsWith ('T' :: 'I' :: lead) (word ++ rest) = false := by
  obtain ⟨first, later, rfl, -, sameLater⟩ := (Text.sameLetters_cons_iff _ _ _).mp same
  refine ⟨startsWith_of_other same rfl lead rest, ?_⟩
  have second : Text.startsWith ('I' :: lead) (later ++ rest) = false :=
    startsWith_of_other sameLater rfl lead rest
  rw [List.cons_append, Text.startsWith, second, Bool.and_false]

/-- A token that starts with the name of the conversion and a parenthesis is read as a call. -/
theorem classify_of_call
    {token word behind : Text}
    (same : Text.sameLetters Keyword.toTimestamp word = true)
    (trimmed : token.trim = word ++ '(' :: behind) :
    classify token = ofCall token.trim := by
  have noDate : Text.startsWith (Keyword.date ++ [' ', '\'']) (word ++ '(' :: behind) = false :=
    (startsWith_of_toTimestamp same _ _).1
  have noTimestamp :
      Text.startsWith (Keyword.timestamp ++ [' ', '\'']) (word ++ '(' :: behind) = false :=
    (startsWith_of_toTimestamp same _ _).2
  have starts : Text.startsWith (Keyword.toTimestamp ++ ['(']) (word ++ '(' :: behind) = true := by
    rw [Text.startsWith_append_append same]
    rfl
  simp only [classify, trimmed, noNull_of_other same rfl, noDate, noTimestamp, starts,
    Bool.false_eq_true, if_false, if_true]

/-- The name of the conversion holds no parenthesis. -/
theorem opening_notMem_toTimestamp
    {word : Text}
    (same : Text.sameLetters Keyword.toTimestamp word = true) :
    '(' ∉ word := by
  intro member
  exact absurd (ordinary_of_mem_word same rfl '(' member) (by decide)

/-- A conversion with two or three strings is that conversion. -/
theorem classify_conversion
    {word : Text}
    (same : Text.sameLetters Keyword.toTimestamp word = true)
    (value format : Argument)
    (language : Option Argument) :
    classify (word ++
        '(' :: (listed ((Spelling.arguments value format language).map Argument.part) ++ [')'])) =
      .ok (.toTimestamp value.body format.body (language.map Argument.body)) := by
  have call :=
    ofCall_conversion (opening_notMem_toTimestamp same) value format language
  generalize listed ((Spelling.arguments value format language).map Argument.part) = list at call ⊢
  have trimmed : (word ++ '(' :: (list ++ [')'])).trim = word ++ '(' :: (list ++ [')']) :=
    trim_word_append same rfl ('(' :: list) rfl
  rw [classify_of_call same trimmed, trimmed, call]

/-- Every spelling of a literal, between any white space, is classified as that literal. -/
theorem classify_text (spelling : Spelling) (before after : Blank) :
    classify (before.val ++ spelling.text ++ after.val) = .ok spelling.literal := by
  rw [classify_padded]
  cases spelling with
  | null word => exact classify_of_null word.property
  | date word body => exact classify_date_marks word.property body
  | timestamp word body => exact classify_timestamp_marks word.property body
  | conversion word value format language =>
    exact classify_conversion word.property value format language
  | string body => exact classify_quote body
  | integer value fits => exact classify_toText fits

/-- Commas, parentheses and keywords inside strings separate nothing. -/
example : classify "\u3000to_Timestamp('a,)''(' ,\t'NULL' ) ".toList =
    .ok (.toTimestamp "a,)'(".toList "NULL".toList none) := by rfl

end Literal
end SqlDump
