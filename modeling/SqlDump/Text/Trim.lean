import SqlDump.Text.Basic
import SqlDump.Unicode.WhiteSpace

/-!
# White space around and inside texts

Trimming takes white space off both ends of a text and leaves the inside alone.
-/

namespace SqlDump
namespace Text

open Unicode (isWhiteSpace)

/-- A text without the white space at its start. -/
def trimStart (text : Text) : Text :=
  text.dropWhile isWhiteSpace

/-- A text without the white space at its end. -/
def trimEnd (text : Text) : Text :=
  (trimStart text.reverse).reverse

/-- A text without the white space at its two ends. -/
def trim (text : Text) : Text :=
  trimEnd (trimStart text)

/-- Whether a text holds nothing but white space. -/
def isBlank (text : Text) : Bool :=
  text.all isWhiteSpace

@[simp] theorem trim_nil : trim [] = [] := rfl

/-- A text that starts with another character keeps its start. -/
theorem trimStart_cons_of_not (char : Char) (rest : Text) (solid : isWhiteSpace char = false) :
    trimStart (char :: rest) = char :: rest := by
  simp [trimStart, solid]

/-- Trimming the start a second time changes nothing. -/
@[simp] theorem trimStart_trimStart (text : Text) :
    trimStart (trimStart text) = trimStart text := by
  induction text with
  | nil => rfl
  | cons char rest inductionHypothesis =>
    by_cases white : isWhiteSpace char = true
    · simpa [trimStart, white] using inductionHypothesis
    · have solid : isWhiteSpace char = false := by simpa using white
      rw [trimStart_cons_of_not char rest solid, trimStart_cons_of_not char rest solid]

/-- Trimming the end a second time changes nothing. -/
@[simp] theorem trimEnd_trimEnd (text : Text) : trimEnd (trimEnd text) = trimEnd text := by
  simp [trimEnd]

theorem isBlank_nil : isBlank [] = true := rfl

theorem isBlank_space : isBlank [' '] = true := rfl

theorem isBlank_append (front back : Text) :
    isBlank (front ++ back) = (isBlank front && isBlank back) := by
  simp [isBlank]

@[simp] theorem isBlank_reverse (text : Text) : isBlank text.reverse = isBlank text := by
  simp [isBlank]

/-- White space before a text is trimmed off. -/
theorem trimStart_append_of_isBlank (blank text : Text) (white : isBlank blank = true) :
    trimStart (blank ++ text) = trimStart text := by
  have all : ∀ char ∈ blank, isWhiteSpace char = true := by simpa [isBlank] using white
  exact List.dropWhile_append_of_pos all

/-- White space behind a text is trimmed off. -/
theorem trimEnd_append_of_isBlank (text blank : Text) (white : isBlank blank = true) :
    trimEnd (text ++ blank) = trimEnd text := by
  have reversed : isBlank blank.reverse = true := by simpa using white
  rw [trimEnd, trimEnd, List.reverse_append, trimStart_append_of_isBlank _ _ reversed]

/-- White space before a text does not count. -/
theorem trim_append_of_isBlank (blank text : Text) (white : isBlank blank = true) :
    trim (blank ++ text) = trim text := by
  rw [trim, trim, trimStart_append_of_isBlank blank text white]

/-- Nothing is trimmed off a text that neither starts nor ends with white space. -/
theorem trim_eq_self
    {text : Text}
    (first : ∀ char ∈ text.head?, isWhiteSpace char = false)
    (last : ∀ char ∈ text.getLast?, isWhiteSpace char = false) :
    trim text = text := by
  have keepsStart (text : Text) (solid : ∀ char ∈ text.head?, isWhiteSpace char = false) :
      trimStart text = text := by
    cases text with
    | nil => rfl
    | cons char rest => exact trimStart_cons_of_not char rest (solid char rfl)
  rw [trim, keepsStart text first, trimEnd, keepsStart, List.reverse_reverse]
  rwa [List.head?_reverse]

/-- What the start of a text loses is white space. -/
theorem exists_append_trimStart (text : Text) :
    ∃ blank, isBlank blank = true ∧ blank ++ trimStart text = text := by
  refine ⟨text.takeWhile isWhiteSpace, ?_, List.takeWhile_append_dropWhile⟩
  rw [isBlank]
  exact List.all_takeWhile

theorem trim_of_isBlank (text : Text) (white : isBlank text = true) : trim text = [] := by
  rw [← List.append_nil text, trim_append_of_isBlank text [] white, trim_nil]

/-- White space behind a text does not count. -/
theorem trim_append_blank (text blank : Text) (white : isBlank blank = true) :
    trim (text ++ blank) = trim text := by
  by_cases empty : trimStart text = []
  · obtain ⟨before, beforeWhite, whole⟩ := exists_append_trimStart text
    have textWhite : isBlank text = true := by
      rwa [← whole, empty, List.append_nil]
    rw [trim_of_isBlank text textWhite, trim_append_of_isBlank text blank textWhite,
      trim_of_isBlank blank white]
  · have solid : trimStart (text ++ blank) = trimStart text ++ blank := by
      rw [trimStart, List.dropWhile_append, ← trimStart, if_neg (by simpa using empty)]
    rw [trim, trim, solid, trimEnd_append_of_isBlank _ _ white]

/-- What the end of a text loses is white space. -/
theorem exists_trimEnd_append (text : Text) :
    ∃ blank, isBlank blank = true ∧ trimEnd text ++ blank = text := by
  obtain ⟨blank, white, whole⟩ := exists_append_trimStart text.reverse
  refine ⟨blank.reverse, by simpa using white, ?_⟩
  rw [trimEnd, ← List.reverse_append, whole, List.reverse_reverse]

/-- A text is its trimmed form between white space. -/
theorem exists_trim_between (text : Text) :
    ∃ before after, isBlank before = true ∧ isBlank after = true ∧
      text = before ++ trim text ++ after := by
  obtain ⟨before, beforeBlank, front⟩ := exists_append_trimStart text
  obtain ⟨after, afterBlank, back⟩ := exists_trimEnd_append (trimStart text)
  exact ⟨before, after, beforeBlank, afterBlank, by rw [trim, List.append_assoc, back, front]⟩

theorem trim_trimEnd (text : Text) : trim (trimEnd text) = trim text := by
  obtain ⟨blank, white, whole⟩ := exists_trimEnd_append text
  rw [← trim_append_blank (trimEnd text) blank white, whole]

/-- Trimming the start stops at the first character that is no white space. -/
theorem trimStart_append_cons
    (front : Text)
    (char : Char)
    (rest : Text)
    (solid : isWhiteSpace char = false) :
    trimStart (front ++ char :: rest) = trimStart front ++ char :: rest := by
  induction front with
  | nil => exact trimStart_cons_of_not char rest solid
  | cons first later inductionHypothesis =>
    by_cases white : isWhiteSpace first = true
    · simpa [trimStart, white] using inductionHypothesis
    · have solidFirst : isWhiteSpace first = false := by simpa using white
      rw [List.cons_append, trimStart_cons_of_not first _ solidFirst,
        trimStart_cons_of_not first _ solidFirst, List.cons_append]

/-- Trimming the end stops at the last character that is no white space. -/
theorem trimEnd_append_cons
    (front : Text)
    (char : Char)
    (rest : Text)
    (solid : isWhiteSpace char = false) :
    trimEnd (front ++ char :: rest) = front ++ char :: trimEnd rest := by
  have reversed : (front ++ char :: rest).reverse = rest.reverse ++ char :: front.reverse := by
    simp
  rw [trimEnd, reversed, trimStart_append_cons _ _ _ solid, trimEnd]
  simp

/-- A trimmed text does not end with white space. -/
theorem getLast?_trim (text : Text) : ∀ char ∈ (trim text).getLast?, isWhiteSpace char = false := by
  intro char member
  rw [trim, trimEnd, List.getLast?_reverse, trimStart] at member
  have first := List.head?_dropWhile_not isWhiteSpace (trimStart text).reverse
  rw [Option.mem_def.mp member] at first
  simpa using first

/-- A text whose end was trimmed starts as before. -/
theorem trimStart_trimEnd_trimStart (text : Text) :
    trimStart (trimEnd (trimStart text)) = trimEnd (trimStart text) := by
  obtain ⟨blank, -, whole⟩ := exists_trimEnd_append (trimStart text)
  cases shortened : trimEnd (trimStart text) with
  | nil => rfl
  | cons char rest =>
    have start : List.dropWhile isWhiteSpace text = char :: (rest ++ blank) := by
      rw [shortened] at whole
      exact whole.symm
    have solid : isWhiteSpace char = false := by
      simpa [start] using List.head_dropWhile_not isWhiteSpace (l := text) (by simp [start])
    exact trimStart_cons_of_not char rest solid

/-- A trimmed text does not start with white space. -/
theorem head?_trim (text : Text) : ∀ char ∈ (trim text).head?, isWhiteSpace char = false := by
  intro char member
  rw [trim, ← trimStart_trimEnd_trimStart, trimStart] at member
  have first := List.head?_dropWhile_not isWhiteSpace (trimEnd (trimStart text))
  rw [Option.mem_def.mp member] at first
  simpa using first

/-- Trimming a second time changes nothing. -/
@[simp] theorem trim_trim (text : Text) : trim (trim text) = trim text := by
  rw [trim, trim, trimStart_trimEnd_trimStart, trimEnd_trimEnd]

/-- A text with every run of white space written as one space. -/
def collapseSpaces : Text → Text
  | [] => []
  | char :: rest =>
    if isWhiteSpace char then
      match rest with
      | [] => [' ']
      | next :: _ => if isWhiteSpace next then collapseSpaces rest else ' ' :: collapseSpaces rest
    else char :: collapseSpaces rest

theorem collapseSpaces_cons_of_not
    {char : Char}
    (solid : isWhiteSpace char = false)
    (rest : Text) :
    collapseSpaces (char :: rest) = char :: collapseSpaces rest := by
  rw [collapseSpaces.eq_def]
  simp [solid]

/-- White space in front of other text becomes one space. -/
theorem collapseSpaces_blank_append
    {blank : Text}
    {char : Char}
    (white : blank.isBlank = true)
    (nonempty : blank ≠ [])
    (solid : isWhiteSpace char = false)
    (rest : Text) :
    collapseSpaces (blank ++ char :: rest) = ' ' :: char :: collapseSpaces rest := by
  induction blank with
  | nil => exact absurd rfl nonempty
  | cons first later inductionHypothesis =>
    obtain ⟨firstWhite, laterWhite⟩ := List.forall_mem_cons.mp (List.all_eq_true.mp white)
    cases later with
    | nil =>
      rw [List.singleton_append, collapseSpaces, if_pos firstWhite]
      simp [solid, collapseSpaces_cons_of_not solid]
    | cons second further =>
      have secondWhite := laterWhite second List.mem_cons_self
      have others := inductionHypothesis (List.all_eq_true.mpr laterWhite) (List.cons_ne_nil _ _)
      rw [List.cons_append, List.cons_append, collapseSpaces, if_pos firstWhite]
      simp only [secondWhite, if_true]
      exact others

end Text
end SqlDump
