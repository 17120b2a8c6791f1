import SqlDump.Proofs.InsertParts
import SqlDump.Value.Binding

/-!
# What written literals stand for

The null value, an integer of 64 bits and a string are written as literals that are classified as
what they are, and bound as the values they stand for.
-/

namespace SqlDump

/-! ## Integers -/

namespace Integer

theorem splitSign_of_isDigit
    {char : Char}
    (digit : char.isDigit = true)
    (rest : Text) :
    splitSign (char :: rest) = (false, char :: rest) := by
  unfold splitSign
  split
  · rename_i same
    obtain ⟨rfl, -⟩ := List.cons.inj same
    exact absurd digit (by decide)
  · rename_i same
    obtain ⟨rfl, -⟩ := List.cons.inj same
    exact absurd digit (by decide)
  · rfl

/-- An integer is written as its sign and its digits. -/
theorem splitSign_toText (value : Int) :
    splitSign (toText value) = (decide (value < 0), Digits.ofNat value.natAbs) := by
  unfold toText
  split
  · rename_i negative
    simp [splitSign, negative]
  · rename_i positive
    obtain ⟨char, rest, digits⟩ := List.exists_cons_of_ne_nil (Digits.ofNat_ne_nil value.natAbs)
    have digit := Digits.isDigit_of_mem_ofNat value.natAbs char (by simp [digits])
    rw [digits, splitSign_of_isDigit digit]
    simp [positive]

/-- A written integer of 64 bits is read back. -/
theorem ofText?_toText {value : Int} (fits : FitsInt64 value) :
    ofText? (toText value) = some value := by
  have digits : (Digits.ofNat value.natAbs).all Char.isDigit = true :=
    List.all_eq_true.mpr (Digits.isDigit_of_mem_ofNat value.natAbs)
  have magnitude : signed (decide (value < 0)) value.natAbs = value := by
    by_cases negative : value < 0
    · rw [decide_eq_true negative, signed, if_pos rfl]
      omega
    · rw [decide_eq_false negative, signed, if_neg Bool.false_ne_true]
      omega
  simp only [ofText?, splitSign_toText, Digits.value_ofNat, magnitude]
  rw [if_neg (by simp [Digits.ofNat_ne_nil, digits]), if_pos fits]

/-- A written integer starts with a minus or a digit, and only digits follow. -/
theorem exists_toText (value : Int) :
    ∃ char digits, toText value = char :: digits ∧
      (char = '-' ∧ digits ≠ [] ∨ char.isDigit = true) ∧
      ∀ digit ∈ digits, digit.isDigit = true := by
  have digits := Digits.isDigit_of_mem_ofNat value.natAbs
  unfold toText
  split
  · exact ⟨'-', _, rfl, .inl ⟨rfl, Digits.ofNat_ne_nil value.natAbs⟩, digits⟩
  · obtain ⟨char, rest, whole⟩ := List.exists_cons_of_ne_nil (Digits.ofNat_ne_nil value.natAbs)
    rw [whole] at digits ⊢
    refine ⟨char, rest, rfl, .inr (digits char List.mem_cons_self), ?_⟩
    exact fun digit member => digits digit (List.mem_cons_of_mem _ member)

/-- The characters of a written integer are a minus and digits. -/
theorem eq_or_isDigit_of_mem_toText
    {value : Int}
    {char : Char}
    (member : char ∈ toText value) :
    char = '-' ∨ char.isDigit = true := by
  obtain ⟨first, digits, whole, start, rest⟩ := exists_toText value
  rw [whole] at member
  rcases List.mem_cons.mp member with rfl | later
  · exact start.imp_left And.left
  · exact .inr (rest char later)

theorem isWhiteSpace_of_mem_toText
    {value : Int}
    {char : Char}
    (member : char ∈ toText value) :
    Unicode.isWhiteSpace char = false := by
  rcases eq_or_isDigit_of_mem_toText member with rfl | digit
  · rfl
  · exact Keyword.isWhiteSpace_of_continuesWord (Keyword.continuesWord_of_isDigit digit)

/-- No white space is trimmed off a written integer. -/
theorem trim_toText (value : Int) : (toText value).trim = toText value := by
  apply Text.trim_eq_self
  · exact fun char member => isWhiteSpace_of_mem_toText (List.mem_of_mem_head? member)
  · exact fun char member => isWhiteSpace_of_mem_toText (List.mem_of_mem_getLast? member)

end Integer

/-! ## Classification -/

theorem Text.isAlpha_of_isDigit {char : Char} (digit : char.isDigit = true) :
    char.isAlpha = false := by
  rw [Bool.eq_false_iff, ne_eq, isAlpha_iff]
  have bounds := Char.isDigit_iff_toNat.mp digit
  have first : '0'.toNat = 48 := rfl
  have last : '9'.toNat = 57 := rfl
  omega

theorem Text.startsWith_of_not_isAlpha
    {letter char : Char}
    (isLetter : letter.isAlpha = true)
    (other : char.isAlpha = false)
    (lead rest : Text) :
    startsWith (letter :: lead) (char :: rest) = false := by
  have apart : sameLetter letter char = false := by
    rw [Bool.eq_false_iff]
    intro same
    rw [isAlpha_of_sameLetter same isLetter] at other
    exact Bool.false_ne_true other.symm
  rw [startsWith, apart, Bool.false_and]

/-- A quoted text is the string it quotes. -/
theorem Quoted.string?_quote (text : Text) : string? (quote '\'' text) = some text := by
  rw [string?, Insert.trim_quote '\'' text rfl, quote, enclosed?_marks, Option.map_some,
    undouble_double]

namespace Literal

section Classification

variable {token : Text} {char : Char} {rest : Text}

/-- What starts with no letter is no keyword and no call. -/
theorem noKeyword_of_not_isAlpha (rest : Text) (noLetter : char.isAlpha = false) :
    Text.sameLetters Keyword.null (char :: rest) = false ∧
      Text.startsWith (Keyword.date ++ [' ', '\'']) (char :: rest) = false ∧
      Text.startsWith (Keyword.timestamp ++ [' ', '\'']) (char :: rest) = false ∧
      Text.startsWith (Keyword.toTimestamp ++ ['(']) (char :: rest) = false := by
  have noWord (letter : Char) (isLetter : letter.isAlpha = true) (lead : Text) :
      Text.startsWith (letter :: lead) (char :: rest) = false :=
    Text.startsWith_of_not_isAlpha isLetter noLetter lead rest
  refine ⟨?_, noWord 'D' rfl _, noWord 'T' rfl _, noWord 'T' rfl _⟩
  rw [Text.sameLetters, Keyword.null, noWord 'N' rfl, Bool.and_false]

theorem classify_of_string
    {body : Text}
    (trimmed : token.trim = char :: rest)
    (noLetter : char.isAlpha = false)
    (string : Quoted.string? (char :: rest) = some body) :
    classify token = .ok (.string body) := by
  obtain ⟨noNull, noDate, noTimestamp, noCall⟩ := noKeyword_of_not_isAlpha rest noLetter
  simp only [classify, trimmed, noNull, noDate, noTimestamp, noCall, string, Bool.false_eq_true,
    if_false]

theorem classify_of_number
    (trimmed : token.trim = char :: rest)
    (noLetter : char.isAlpha = false)
    (noString : Quoted.string? (char :: rest) = none) :
    classify token = .ok (ofNumber (char :: rest)) := by
  obtain ⟨noNull, noDate, noTimestamp, noCall⟩ := noKeyword_of_not_isAlpha rest noLetter
  simp only [classify, trimmed, noNull, noDate, noTimestamp, noCall, noString, Bool.false_eq_true,
    if_false]

end Classification

theorem classify_null : classify Keyword.null = .ok .null := rfl

/-- A quoted text is a string, whatever it says. -/
theorem classify_quote (text : Text) :
    classify (Quoted.quote '\'' text) = .ok (.string text) :=
  classify_of_string (Insert.trim_quote '\'' text rfl) rfl (Quoted.string?_quote text)

/-- A written integer of 64 bits is that integer. -/
theorem classify_toText {value : Int} (fits : Integer.FitsInt64 value) :
    classify (Integer.toText value) = .ok (.integer value) := by
  have trimmed := Integer.trim_toText value
  have noPoint : (Integer.toText value).contains '.' = false := by
    rw [Bool.eq_false_iff]
    intro member
    rcases Integer.eq_or_isDigit_of_mem_toText (by simpa using member) with minus | digit
    · exact absurd minus (by decide)
    · exact absurd digit (by decide)
  have number : ofNumber (Integer.toText value) = .integer value := by
    simp only [ofNumber, noPoint, Integer.ofText?_toText fits, Bool.false_eq_true, if_false]
  obtain ⟨char, digits, whole, start, -⟩ := Integer.exists_toText value
  rw [whole] at trimmed number ⊢
  have noLetter : char.isAlpha = false := by
    rcases start with ⟨rfl, -⟩ | digit
    · rfl
    · exact Text.isAlpha_of_isDigit digit
  have noString : Quoted.string? (char :: digits) = none := by
    have noMark : char ≠ '\'' := by
      rintro rfl
      rcases start with ⟨minus, -⟩ | digit
      · exact absurd minus (by decide)
      · exact absurd digit (by decide)
    rw [Quoted.string?, trimmed, Quoted.enclosed?, if_neg (fun both => noMark both.1)]
    rfl
  rw [classify_of_number trimmed noLetter noString, number]

/-! ## Arguments of calls -/

section Arguments

variable {front arguments behind : Text}

/-- Up to a mark, nothing stops in a text without it. -/
theorem dropWhile_append_of_not_mem
    {mark : Char}
    (absent : mark ∉ front)
    (rest : Text) :
    (front ++ rest).dropWhile (· ≠ mark) = rest.dropWhile (· ≠ mark) := by
  apply List.dropWhile_append_of_pos
  intro char member
  rw [decide_eq_true_eq]
  rintro rfl
  exact absent member

theorem callArguments?_of_noOpening (noOpening : '(' ∉ front) : callArguments? front = none := by
  have nothing := dropWhile_append_of_not_mem noOpening []
  rw [List.append_nil] at nothing
  rw [callArguments?, nothing]
  rfl

/-- The arguments of a call start behind its first opening parenthesis. -/
theorem callArguments?_of_opening
    (noOpening : '(' ∉ front)
    (behind : Text) :
    callArguments? (front ++ '(' :: behind) = callArguments? ('(' :: behind) := by
  rw [callArguments?, dropWhile_append_of_not_mem noOpening, callArguments?]

theorem callArguments?_of_noClosing (noClosing : ')' ∉ behind) :
    callArguments? ('(' :: behind) = none := by
  have nothing := dropWhile_append_of_not_mem (mt List.mem_reverse.mp noClosing) []
  rw [List.append_nil] at nothing
  have start : ('(' :: behind).dropWhile (· ≠ '(') = '(' :: behind := rfl
  rw [callArguments?, start]
  simp only [nothing]
  rfl

/-- The arguments of a call end in front of its last closing parenthesis. -/
theorem callArguments?_of_closing
    (arguments : Text)
    (noClosing : ')' ∉ behind) :
    callArguments? ('(' :: (arguments ++ ')' :: behind)) = some arguments := by
  have last : (arguments ++ ')' :: behind).reverse.dropWhile (· ≠ ')') =
      ')' :: arguments.reverse := by
    rw [List.reverse_append, List.reverse_cons, List.append_assoc,
      dropWhile_append_of_not_mem (mt List.mem_reverse.mp noClosing)]
    rfl
  have start : ('(' :: (arguments ++ ')' :: behind)).dropWhile (· ≠ '(') =
      '(' :: (arguments ++ ')' :: behind) := rfl
  rw [callArguments?, start]
  simp only [last, List.reverse_reverse]

end Arguments

end Literal

/-! ## Bindings -/

theorem bindValue_null (policy : LargeTextPolicy) :
    bindValue policy Keyword.null = .ok .null := by
  rw [bindValue, Literal.classify_null]
  rfl

theorem bindValue_quote (policy : LargeTextPolicy) (text : Text) :
    bindValue policy (Quoted.quote '\'' text) =
      .ok (if policy.isOversized text then .largeText text else .text text) := by
  rw [bindValue, Literal.classify_quote]
  rfl

theorem bindValue_toText
    (policy : LargeTextPolicy)
    {value : Int}
    (fits : Integer.FitsInt64 value) :
    bindValue policy (Integer.toText value) = .ok (.long value) := by
  rw [bindValue, Literal.classify_toText fits]
  rfl

end SqlDump
