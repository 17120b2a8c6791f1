import SqlDump.Insert.DateLiteral
import SqlDump.Proofs.InsertParts

/-!
# What rewriting dates leaves alone

Rewriting dates replaces words by a word, so delimiters, quotes and white space stay where they
are.  No date reaches across a delimiter of a list, so a list is rewritten item by item.
-/

namespace SqlDump
namespace DateLiteral

open Unicode (isWhiteSpace isWordCharacter isDecimalDigit)

theorem isWordCharacter_of_isAlpha {char : Char} (letter : char.isAlpha = true) :
    isWordCharacter char = true := by
  rcases (Text.isAlpha_iff char).mp letter with ⟨first, last⟩ | ⟨first, last⟩
  · exact Unicode.RangeTable.covers_of_mem _ (0x41, 0x5A) (by decide +kernel) first last
  · exact Unicode.RangeTable.covers_of_mem _ (0x61, 0x7A) (by decide +kernel) first last

/-! ## Where a date may start -/

/-- The word that is replaced is a word of letters, and no date starts inside it. -/
theorem letters_of_startsWith_date
    {first second third fourth : Char}
    (starts : Text.startsWith Keyword.date [first, second, third, fourth] = true) :
    (∀ letter ∈ [first, second, third, fourth], letter.isAlpha = true) ∧
      ∀ letter ∈ [second, third, fourth], Text.sameLetter 'D' letter = false := by
  have same : Text.sameLetters Keyword.date [first, second, third, fourth] = true := by
    rw [Text.sameLetters, starts]
    rfl
  refine ⟨Text.isAlpha_of_sameLetters same (List.all_eq_true.mp rfl), ?_⟩
  obtain ⟨_, _, whole, -, later⟩ := (Text.sameLetters_cons_iff _ _ _).mp same
  obtain ⟨rfl, rfl⟩ := List.cons.inj whole
  have apart : ['A', 'T', 'E'].all (!Text.sameLetter 'D' ·) = true := rfl
  refine Text.forall_mem_of_sameLetters later fun expected member char sameChar => ?_
  rw [Text.sameLetter_congr sameChar]
  exact (Bool.not_eq_true' _).mp (List.all_eq_true.mp apart expected member)

/-- Whether a text starts with the word DATE and a literal with a time of day. -/
def startsDate : Text → Bool
  | first :: second :: third :: fourth :: rest =>
    Text.startsWith Keyword.date [first, second, third, fourth] && hasTime rest
  | _ => false

theorem normalizeAfter_cons_of_not
    (previous : Option Char)
    (char : Char)
    (rest : Text)
    (other : startsDate (char :: rest) = false) :
    normalizeAfter previous (char :: rest) = char :: normalizeAfter (some char) rest := by
  match rest with
  | [] | [_] | [_, _] => rfl
  | second :: third :: fourth :: later =>
    have refused : ¬(!previous.any isWordCharacter &&
        Text.startsWith Keyword.date [char, second, third, fourth] && hasTime later) = true := by
      rw [Bool.and_assoc]
      change ¬(!previous.any isWordCharacter &&
        startsDate (char :: second :: third :: fourth :: later)) = true
      simp [other]
    rw [normalizeAfter, if_neg refused]

theorem startsDate_cons_of_not
    (char : Char)
    (rest : Text)
    (other : Text.sameLetter 'D' char = false) :
    startsDate (char :: rest) = false := by
  match rest with
  | [] | [_] | [_, _] => rfl
  | second :: third :: fourth :: later => simp [startsDate, Text.startsWith, Keyword.date, other]

/-- Characters that start no date are kept. -/
theorem normalizeAfter_append_of_not
    (previous : Option Char)
    (front back : Text)
    (other : ∀ char ∈ front, Text.sameLetter 'D' char = false) :
    normalizeAfter previous (front ++ back) =
      front ++ normalizeAfter (front.getLast?.or previous) back := by
  induction front generalizing previous with
  | nil => rfl
  | cons char rest inductionHypothesis =>
    have first := startsDate_cons_of_not char (rest ++ back) (other char List.mem_cons_self)
    have others := inductionHypothesis (some char) fun next member =>
      other next (List.mem_cons_of_mem _ member)
    rw [List.cons_append, normalizeAfter_cons_of_not _ _ _ first, others, Text.getLast?_cons_or]
    rfl

/-- Behind a character that is part of no word a text is rewritten as on its own. -/
theorem normalizeAfter_eq_normalize
    (previous : Option Char)
    (text : Text)
    (boundary : previous.any isWordCharacter = false) :
    normalizeAfter previous text = normalize text := by
  match text with
  | [] | [_] | [_, _] | [_, _, _] => rfl
  | first :: second :: third :: fourth :: rest =>
    rw [normalize, normalizeAfter, normalizeAfter, boundary]
    rfl

/-- A text that starts no date is rewritten alike behind every character. -/
theorem normalizeAfter_cons_eq_normalize
    (previous : Option Char)
    (char : Char)
    (rest : Text)
    (other : Text.sameLetter 'D' char = false) :
    normalizeAfter previous (char :: rest) = normalize (char :: rest) := by
  have noDate := startsDate_cons_of_not char rest other
  rw [normalize, normalizeAfter_cons_of_not _ _ _ noDate, normalizeAfter_cons_of_not _ _ _ noDate]

/-! ## Where no date reaches across -/

/-- Whether a text starts with the digits behind the point of a time, and the closing quote. -/
def endsFraction : Text → Bool
  | [] => false
  | digit :: rest => isDecimalDigit digit && (rest.dropWhile isDecimalDigit).head? == some '\''

theorem endsTime_cons (first : Char) (rest : Text) :
    endsTime (first :: rest) = (first == '\'' || (first == '.' && endsFraction rest)) := by
  by_cases quote : first = '\''
  · rw [quote]
    rfl
  · by_cases point : first = '.'
    · rw [point]
      cases rest <;> rfl
    · have other : (first == '\'' || (first == '.' && endsFraction rest)) = false := by
        simp [quote, point]
      rw [other, endsTime.eq_def]
      split <;> simp_all

/-- Whether a text starts with what a template, or the rest of one, asks for, and with the end of
a time behind it. -/
def completes (template text : Text) : Bool :=
  (afterTemplate? template text).any endsTime

theorem hasTime_eq_completes (text : Text) : hasTime text = completes template text := by
  rw [hasTime, completes]
  cases afterTemplate? template text <;> rfl

theorem completes_cons_cons (expected first : Char) (template rest : Text) :
    completes (expected :: template) (first :: rest) =
      (decide ((expected = '0' ∧ isDecimalDigit first = true) ∨
        (expected ≠ '0' ∧ first = expected)) && completes template rest) := by
  rw [completes, completes, afterTemplate?]
  split
  · rename_i agrees
    simp [agrees]
  · rename_i differs
    simp [differs]

/-- A text that no date in front of it reaches into: it neither continues the word DATE nor
completes any part of the literal behind the word. -/
structure Divides (back : Text) : Prop where
  noLetter : ∀ char ∈ back.head?, char.isAlpha = false
  noCompletion : ∀ rest, rest <:+ template → completes rest back = false
  noFraction : endsFraction back = false
  noQuote : (back.dropWhile isDecimalDigit).head? ≠ some '\''

namespace Divides

variable {back : Text}

theorem endsFraction_append (divides : Divides back) (text : Text) :
    endsFraction (text ++ back) = endsFraction text := by
  cases text with
  | nil => exact divides.noFraction
  | cons digit rest =>
    have head : ((rest ++ back).dropWhile isDecimalDigit).head? = some '\'' ↔
        (rest.dropWhile isDecimalDigit).head? = some '\'' := by
      rw [List.dropWhile_append]
      split
      · rename_i digits
        rw [List.isEmpty_iff.mp digits]
        simp [divides.noQuote]
      · rename_i more
        obtain ⟨next, later, found⟩ := List.exists_cons_of_ne_nil
          (mt List.isEmpty_iff.mpr more)
        rw [found]
        rfl
    rw [List.cons_append, endsFraction, endsFraction]
    congr 1
    rw [Bool.eq_iff_iff, beq_iff_eq, beq_iff_eq]
    exact head

theorem endsTime_append (divides : Divides back) (text : Text) :
    endsTime (text ++ back) = endsTime text := by
  cases text with
  | nil => exact divides.noCompletion [] (List.nil_suffix)
  | cons first rest =>
    rw [List.cons_append, endsTime_cons, endsTime_cons, divides.endsFraction_append]

theorem completes_append
    (divides : Divides back)
    (rest text : Text)
    (part : rest <:+ template) :
    completes rest (text ++ back) = completes rest text := by
  induction rest generalizing text with
  | nil => exact divides.endsTime_append text
  | cons expected rest inductionHypothesis =>
    cases text with
    | nil => exact divides.noCompletion (expected :: rest) part
    | cons first later =>
      have others := inductionHypothesis later ((List.suffix_cons expected rest).trans part)
      rw [List.cons_append, completes_cons_cons, completes_cons_cons, others]

theorem hasTime_append (divides : Divides back) (text : Text) :
    hasTime (text ++ back) = hasTime text := by
  rw [hasTime_eq_completes, hasTime_eq_completes, divides.completes_append _ _ List.suffix_rfl]

end Divides

theorem startsDate_append
    {back : Text}
    (divides : Divides back)
    (char : Char)
    (rest : Text) :
    startsDate (char :: rest ++ back) = startsDate (char :: rest) := by
  have refused (letter : Char) (isLetter : letter.isAlpha = true) :
      ∀ first ∈ back.head?, Text.sameLetter letter first = false := by
    intro first member
    rw [Bool.eq_false_iff]
    intro same
    have alpha := Text.isAlpha_of_sameLetter same isLetter
    rw [divides.noLetter first member] at alpha
    exact Bool.false_ne_true alpha
  rcases rest with _ | ⟨second, _ | ⟨third, _ | ⟨fourth, later⟩⟩⟩
  · rcases back with _ | ⟨next, _ | ⟨_, _ | ⟨_, after⟩⟩⟩
    · rfl
    · rfl
    · rfl
    · simp [startsDate, Text.startsWith, Keyword.date, refused 'A' rfl next rfl]
  · rcases back with _ | ⟨next, _ | ⟨_, after⟩⟩
    · rfl
    · rfl
    · simp [startsDate, Text.startsWith, Keyword.date, refused 'T' rfl next rfl]
  · rcases back with _ | ⟨next, after⟩
    · rfl
    · simp [startsDate, Text.startsWith, Keyword.date, refused 'E' rfl next rfl]
  · simp [startsDate, divides.hasTime_append]

/-- What stands in front of a dividing text is rewritten as on its own. -/
theorem normalizeAfter_append
    {back : Text}
    (divides : Divides back)
    (previous : Option Char)
    (front : Text) :
    normalizeAfter previous (front ++ back) =
      normalizeAfter previous front ++ normalizeAfter (front.getLast?.or previous) back := by
  fun_induction normalizeAfter previous front with
  | case1 previous first second third fourth rest found inductionHypothesis =>
    have foundBefore : (!previous.any isWordCharacter &&
        Text.startsWith Keyword.date [first, second, third, fourth] &&
          hasTime (rest ++ back)) = true := by
      rwa [divides.hasTime_append]
    simp only [List.cons_append]
    rw [normalizeAfter, if_pos foundBefore, inductionHypothesis, List.append_assoc]
    simp only [Text.getLast?_cons_or]
  | case2 previous first second third fourth rest refused inductionHypothesis =>
    have refusedBefore : ¬(!previous.any isWordCharacter &&
        Text.startsWith Keyword.date [first, second, third, fourth] &&
          hasTime (rest ++ back)) = true := by
      rwa [divides.hasTime_append]
    simp only [List.cons_append] at inductionHypothesis ⊢
    rw [normalizeAfter, if_neg refusedBefore, inductionHypothesis]
    simp only [Text.getLast?_cons_or]
  | case3 previous short isShort =>
    -- too short for the word DATE: only the text behind it could complete the word
    have kept (previous : Option Char) (char : Char) (rest : Text)
        (other : startsDate (char :: rest) = false) :
        normalizeAfter previous (char :: (rest ++ back)) =
          char :: normalizeAfter (some char) (rest ++ back) :=
      normalizeAfter_cons_of_not _ _ _ ((startsDate_append divides char rest).trans other)
    match short with
    | [] => rfl
    | [first] => exact kept previous first [] rfl
    | [first, second] =>
      have head := kept previous first [second] rfl
      have later := kept (some first) second [] rfl
      exact head.trans (congrArg (first :: ·) later)
    | [first, second, third] =>
      have head := kept previous first [second, third] rfl
      have next := kept (some first) second [third] rfl
      have later := kept (some second) third [] rfl
      exact head.trans (congrArg (first :: ·) (next.trans (congrArg (second :: ·) later)))
    | first :: second :: third :: fourth :: rest => exact (isShort _ _ _ _ _ rfl).elim

/-- A character that stands nowhere in a date starts no part of one. -/
theorem completes_cons_of_not
    {char : Char}
    {later rest : Text}
    (noQuote : char ≠ '\'')
    (noPoint : char ≠ '.')
    (noDigit : isDecimalDigit char = false)
    (unexpected : char ∉ template)
    (part : rest <:+ template) :
    completes rest (char :: later) = false := by
  cases rest with
  | nil =>
    change endsTime (char :: later) = false
    simp [endsTime_cons, noQuote, noPoint]
  | cons expected rest =>
    have differs : char ≠ expected := by
      rintro rfl
      exact unexpected (part.subset List.mem_cons_self)
    simp [completes_cons_cons, noDigit, differs]

/-- A delimiter of lists divides: no date holds one. -/
theorem divides_cons
    (char : Char)
    (rest : Text)
    (delimiter : char = '(' ∨ char = ')' ∨ char = ',') :
    Divides (char :: rest) := by
  have noLetter : char.isAlpha = false := by
    rcases delimiter with rfl | rfl | rfl <;> rfl
  have noQuote : char ≠ '\'' := by
    rcases delimiter with rfl | rfl | rfl <;> decide
  have noPoint : char ≠ '.' := by
    rcases delimiter with rfl | rfl | rfl <;> decide
  have noDigit : isDecimalDigit char = false := by
    rcases delimiter with rfl | rfl | rfl <;> decide +kernel
  have unexpected : char ∉ template := by
    rcases delimiter with rfl | rfl | rfl <;> decide
  refine ⟨?_, ?_, ?_, ?_⟩
  · rintro _ ⟨rfl⟩
    exact noLetter
  · exact fun rest part => completes_cons_of_not noQuote noPoint noDigit unexpected part
  · simp [endsFraction, noDigit]
  · simp [noDigit, noQuote]

theorem endsFraction_of_not_mem {text : Text} (noQuote : '\'' ∉ text) :
    endsFraction text = false := by
  cases text with
  | nil => rfl
  | cons digit rest =>
    rw [endsFraction, Bool.and_eq_false_iff]
    refine Or.inr (beq_eq_false_iff_ne.mpr fun quote => noQuote ?_)
    exact List.mem_cons_of_mem _
      ((List.dropWhile_suffix _).subset (List.mem_of_mem_head? quote))

theorem endsTime_of_not_mem {text : Text} (noQuote : '\'' ∉ text) : endsTime text = false := by
  cases text with
  | nil => rfl
  | cons first rest =>
    rw [List.mem_cons, not_or] at noQuote
    rw [endsTime_cons, endsFraction_of_not_mem noQuote.2]
    simp [Ne.symm noQuote.1]

theorem completes_of_not_mem
    (rest : Text)
    {text : Text}
    (noQuote : '\'' ∉ text) :
    completes rest text = false := by
  induction rest generalizing text with
  | nil => exact endsTime_of_not_mem noQuote
  | cons expected rest inductionHypothesis =>
    cases text with
    | nil => rfl
    | cons first later =>
      rw [completes_cons_cons, inductionHypothesis fun member =>
        noQuote (List.mem_cons_of_mem _ member), Bool.and_false]

/-- A text without quotes divides: every date ends with one. -/
theorem divides_of_not_mem
    (back : Text)
    (noLetter : ∀ char ∈ back.head?, char.isAlpha = false)
    (noQuote : '\'' ∉ back) :
    Divides back where
  noLetter := noLetter
  noCompletion rest _ := completes_of_not_mem rest noQuote
  noFraction := endsFraction_of_not_mem noQuote
  noQuote quote :=
    noQuote ((List.dropWhile_suffix _).subset (List.mem_of_mem_head? quote))

/-- At a delimiter of lists a text is rewritten in two pieces. -/
theorem normalize_append_cons
    (front : Text)
    (char : Char)
    (back : Text)
    (delimiter : char = '(' ∨ char = ')' ∨ char = ',') :
    normalize (front ++ char :: back) = normalize front ++ char :: normalize back := by
  have noDate : Text.sameLetter 'D' char = false := by
    rcases delimiter with rfl | rfl | rfl <;> rfl
  have noWord : isWordCharacter char = false := by
    rcases delimiter with rfl | rfl | rfl <;> decide +kernel
  rw [normalize, normalizeAfter_append (divides_cons char back delimiter),
    normalizeAfter_cons_of_not _ _ _ (startsDate_cons_of_not char back noDate),
    normalizeAfter_eq_normalize (some char) back noWord]
  rfl

/-- A list is rewritten cell by cell. -/
theorem normalize_intercalate (cells : List Text) :
    normalize (List.intercalate [','] cells) = List.intercalate [','] (cells.map normalize) := by
  induction cells with
  | nil => rfl
  | cons cell rest inductionHypothesis =>
    by_cases final : rest = []
    · rw [final, List.map_singleton, List.intercalate_singleton, List.intercalate_singleton]
    · have mapped : rest.map normalize ≠ [] := by simpa using final
      rw [List.intercalate_cons_of_ne_nil final, List.append_assoc, List.map_cons,
        List.intercalate_cons_of_ne_nil mapped, List.append_assoc, ← inductionHypothesis]
      exact normalize_append_cons cell ',' _ (Or.inr (Or.inr rfl))

/-- White space in front of a text is kept, and the text is rewritten as on its own. -/
theorem normalizeAfter_blank_append
    (previous : Option Char)
    (blank text : Text)
    (white : blank.isBlank = true)
    (boundary : blank = [] → previous.any isWordCharacter = false) :
    normalizeAfter previous (blank ++ text) = blank ++ normalize text := by
  have all : ∀ char ∈ blank, isWhiteSpace char = true := List.all_eq_true.mp white
  rw [normalizeAfter_append_of_not _ _ _ fun char member =>
    Text.sameLetter_of_isWhiteSpace rfl (all char member)]
  congr 1
  apply normalizeAfter_eq_normalize
  cases last : blank.getLast? with
  | none => exact boundary (List.getLast?_eq_none_iff.mp last)
  | some char => exact Unicode.isWordCharacter_of_isWhiteSpace (all char (List.mem_of_getLast? last))

theorem normalize_of_not
    (text : Text)
    (other : ∀ char ∈ text, Text.sameLetter 'D' char = false) :
    normalize text = text := by
  have kept := normalizeAfter_append_of_not none text [] other
  rw [List.append_nil] at kept
  exact kept.trans (List.append_nil text)

/-- White space behind a text is kept. -/
theorem normalizeAfter_append_blank
    (previous : Option Char)
    (text blank : Text)
    (white : blank.isBlank = true) :
    normalizeAfter previous (text ++ blank) = normalizeAfter previous text ++ blank := by
  have all : ∀ char ∈ blank, isWhiteSpace char = true := List.all_eq_true.mp white
  have divides : Divides blank := by
    apply divides_of_not_mem
    · intro char member
      rw [Bool.eq_false_iff]
      intro letter
      have solid := Text.isWhiteSpace_of_isAlpha letter
      rw [all char (List.mem_of_mem_head? member)] at solid
      exact Bool.false_ne_true solid.symm
    · intro quote
      exact absurd (all _ quote) (by decide)
  have kept := normalizeAfter_append_of_not (text.getLast?.or previous) blank [] fun char member =>
    Text.sameLetter_of_isWhiteSpace rfl (all char member)
  rw [List.append_nil] at kept
  rw [normalizeAfter_append divides, kept]
  exact congrArg _ (List.append_nil blank)

end DateLiteral
end SqlDump
