import SqlDump.Proofs.DateRewriting

/-!
# Renamed words

A text is renamed when some of its runs of letters become the word TIMESTAMP.  Letters mean
nothing to a list, so a renamed table, column name or value is a table, column name or value
again.
-/

namespace SqlDump
namespace DateLiteral

open Unicode (isWhiteSpace)
open SqlDump.Insert (TableText ValueText IsTable IsColumn IsValue)

/-- The second text is the first with some runs of letters renamed.  A run that is being renamed
may go on with the next letter. -/
inductive Renamed : (inRun : Bool) → Text → Text → Prop where
  | nil {inRun : Bool} : Renamed inRun [] []
  | keep {inRun : Bool} {char : Char} {rest after : Text}
      (later : Renamed false rest after) :
      Renamed inRun (char :: rest) (char :: after)
  | first {inRun : Bool} {letter : Char} {rest after : Text}
      (isLetter : letter.isAlpha = true)
      (later : Renamed true rest after) :
      Renamed inRun (letter :: rest) (Keyword.timestamp ++ after)
  | more {letter : Char} {rest after : Text}
      (isLetter : letter.isAlpha = true)
      (later : Renamed true rest after) :
      Renamed true (letter :: rest) after

namespace Renamed

variable {inRun : Bool} {text after : Text}

theorem refl (text : Text) : Renamed false text text := by
  induction text with
  | nil => exact .nil
  | cons char rest inductionHypothesis => exact .keep inductionHypothesis

theorem inRun_of_outside (renamed : Renamed false text after) : Renamed true text after := by
  cases renamed with
  | nil => exact .nil
  | keep later => exact .keep later
  | first isLetter later => exact .first isLetter later

/-- A word of letters in front of a text is renamed with it. -/
theorem word
    {word : Text}
    (nonempty : word ≠ [])
    (letters : ∀ letter ∈ word, letter.isAlpha = true)
    (renamed : Renamed false text after) :
    Renamed false (word ++ text) (Keyword.timestamp ++ after) := by
  have more {rest : Text} (letters : ∀ letter ∈ rest, letter.isAlpha = true) :
      Renamed true (rest ++ text) after := by
    induction rest with
    | nil => exact renamed.inRun_of_outside
    | cons letter rest inductionHypothesis =>
      obtain ⟨first, others⟩ := List.forall_mem_cons.mp letters
      exact .more first (inductionHypothesis others)
  cases word with
  | nil => exact absurd rfl nonempty
  | cons letter rest =>
    obtain ⟨first, others⟩ := List.forall_mem_cons.mp letters
    exact .first first (more others)

/-- Rewriting dates renames words. -/
theorem normalizeAfter (previous : Option Char) (text : Text) :
    Renamed false text (DateLiteral.normalizeAfter previous text) := by
  fun_induction DateLiteral.normalizeAfter previous text with
  | case1 previous first second third fourth rest found inductionHypothesis =>
    simp only [Bool.and_eq_true] at found
    have letters := (letters_of_startsWith_date found.1.2).1
    exact word (List.cons_ne_nil first [second, third, fourth]) letters inductionHypothesis
  | case2 previous first second third fourth rest refused inductionHypothesis =>
    exact .keep inductionHypothesis
  | case3 previous short isShort => exact refl short

theorem exists_cons
    {char : Char}
    {rest : Text}
    (noLetter : char.isAlpha = false)
    (renamed : Renamed inRun (char :: rest) after) :
    ∃ later, after = char :: later ∧ Renamed false rest later := by
  cases renamed with
  | keep later => exact ⟨_, rfl, later⟩
  | first isLetter later =>
    rw [noLetter] at isLetter
    exact absurd isLetter Bool.false_ne_true
  | more isLetter later =>
    rw [noLetter] at isLetter
    exact absurd isLetter Bool.false_ne_true

/-- A character that is no letter keeps its place between renamed texts. -/
theorem exists_append_cons
    {char : Char}
    {front back : Text}
    (noLetter : char.isAlpha = false)
    (renamed : Renamed inRun (front ++ char :: back) after) :
    ∃ before behind, after = before ++ char :: behind ∧
      Renamed inRun front before ∧ Renamed false back behind := by
  induction front generalizing inRun after with
  | nil =>
    obtain ⟨later, rfl, rest⟩ := renamed.exists_cons noLetter
    exact ⟨[], later, rfl, .nil, rest⟩
  | cons first rest inductionHypothesis =>
    cases renamed with
    | keep later =>
      obtain ⟨before, behind, rfl, frontRenamed, backRenamed⟩ := inductionHypothesis later
      exact ⟨first :: before, behind, rfl, .keep frontRenamed, backRenamed⟩
    | first isLetter later =>
      obtain ⟨before, behind, rfl, frontRenamed, backRenamed⟩ := inductionHypothesis later
      refine ⟨Keyword.timestamp ++ before, behind, ?_, .first isLetter frontRenamed, backRenamed⟩
      rw [List.append_assoc]
    | more isLetter later =>
      obtain ⟨before, behind, rfl, frontRenamed, backRenamed⟩ := inductionHypothesis later
      exact ⟨before, behind, rfl, .more isLetter frontRenamed, backRenamed⟩

theorem isAlpha_of_mem_timestamp : ∀ char ∈ Keyword.timestamp, char.isAlpha = true :=
  List.all_eq_true.mp rfl

/-! ## Quoted text -/

/-- Doubled marks stay together. -/
theorem exists_double
    {mark : Char}
    {body : Text}
    (noLetter : mark.isAlpha = false)
    (renamed : Renamed inRun (Quoted.double mark body) after) :
    ∃ renamedBody, after = Quoted.double mark renamedBody := by
  have word : Quoted.double mark Keyword.timestamp = Keyword.timestamp := by
    apply Quoted.double_of_not_mem
    intro member
    rw [isAlpha_of_mem_timestamp mark member] at noLetter
    exact Bool.false_ne_true noLetter.symm
  induction body generalizing inRun after with
  | nil =>
    cases renamed
    exact ⟨[], rfl⟩
  | cons char rest inductionHypothesis =>
    by_cases marked : char = mark
    -- the two marks of a pair are neighbours, and neither is a letter, so both are kept
    · rw [Quoted.double, if_pos marked] at renamed
      obtain ⟨_, rfl, once⟩ := renamed.exists_cons noLetter
      obtain ⟨_, rfl, twice⟩ := once.exists_cons noLetter
      obtain ⟨body, rfl⟩ := inductionHypothesis twice
      exact ⟨mark :: body, by rw [Quoted.double, if_pos rfl]⟩
    · rw [Quoted.double, if_neg marked] at renamed
      cases renamed with
      | keep later =>
        obtain ⟨body, rfl⟩ := inductionHypothesis later
        exact ⟨char :: body, by rw [Quoted.double, if_neg marked]⟩
      | first isLetter later =>
        obtain ⟨body, rfl⟩ := inductionHypothesis later
        exact ⟨Keyword.timestamp ++ body, by rw [Quoted.double_append, word]⟩
      | more isLetter later => exact inductionHypothesis later

/-- Quoted text in front of other text is renamed inside its quotes. -/
theorem exists_quote_append
    {mark : Char}
    {body rest : Text}
    (noLetter : mark.isAlpha = false)
    (renamed : Renamed inRun (Quoted.quote mark body ++ rest) after) :
    ∃ renamedBody later, after = Quoted.quote mark renamedBody ++ later ∧
      Renamed false rest later := by
  rw [Quoted.quote, List.cons_append, List.append_assoc] at renamed
  obtain ⟨_, rfl, inside⟩ := renamed.exists_cons noLetter
  obtain ⟨_, later, rfl, body, outside⟩ := inside.exists_append_cons noLetter
  obtain ⟨renamedBody, rfl⟩ := body.exists_double noLetter
  exact ⟨renamedBody, later, by simp [Quoted.quote], outside⟩

/-! ## The parts of a statement -/

theorem ordinary_timestamp : ∀ char ∈ Keyword.timestamp, isDelimiter char = false :=
  fun char member => isDelimiter_of_isAlpha (isAlpha_of_mem_timestamp char member)

theorem tableText (renamed : Renamed inRun text after) (table : TableText text) :
    TableText after := by
  induction table generalizing inRun after with
  | nil =>
    cases renamed
    exact .nil
  | char noName noParenthesis later inductionHypothesis =>
    cases renamed with
    | keep renamed => exact .char noName noParenthesis (inductionHypothesis renamed)
    | first isLetter renamed =>
      exact (TableText.of_forall ordinary_timestamp).append (inductionHypothesis renamed)
    | more isLetter renamed => exact inductionHypothesis renamed
  | name name later inductionHypothesis =>
    obtain ⟨body, behind, rfl, outside⟩ := renamed.exists_quote_append rfl
    exact .name body (inductionHypothesis outside)

theorem valueText
    {inGroup : Bool}
    (renamed : Renamed inRun text after)
    (value : ValueText inGroup text) :
    ValueText inGroup after := by
  induction value generalizing inRun after with
  | nil inGroup =>
    cases renamed
    exact .nil inGroup
  | char ordinary later inductionHypothesis =>
    cases renamed with
    | keep renamed => exact .char ordinary (inductionHypothesis renamed)
    | first isLetter renamed =>
      exact (ValueText.of_forall ordinary_timestamp).append (inductionHypothesis renamed)
    | more isLetter renamed => exact inductionHypothesis renamed
  | comma later inductionHypothesis =>
    obtain ⟨behind, rfl, outside⟩ := renamed.exists_cons rfl
    exact .comma (inductionHypothesis outside)
  | string body later inductionHypothesis =>
    obtain ⟨body, behind, rfl, outside⟩ := renamed.exists_quote_append rfl
    exact .string body (inductionHypothesis outside)
  | group balanced later innerHypothesis laterHypothesis =>
    obtain ⟨_, rfl, opened⟩ := renamed.exists_cons rfl
    obtain ⟨inner, behind, rfl, innerRenamed, behindRenamed⟩ := opened.exists_append_cons rfl
    exact .group (innerHypothesis innerRenamed) (laterHypothesis behindRenamed)

theorem ne_nil (renamed : Renamed false text after) (nonempty : text ≠ []) : after ≠ [] := by
  cases renamed with
  | nil => exact absurd rfl nonempty
  | keep later => exact List.cons_ne_nil _ _
  | first isLetter later => exact List.cons_ne_nil _ _

/-- Every character of a renamed text was there before or is a letter. -/
theorem mem_or_isAlpha (renamed : Renamed inRun text after) :
    ∀ char ∈ after, char ∈ text ∨ char.isAlpha = true := by
  induction renamed with
  | nil => simp
  | keep later inductionHypothesis =>
    intro char member
    rcases List.mem_cons.mp member with rfl | member
    · exact Or.inl List.mem_cons_self
    · exact (inductionHypothesis char member).imp_left (List.mem_cons_of_mem _)
  | first isLetter later inductionHypothesis =>
    intro char member
    rcases List.mem_append.mp member with member | member
    · exact Or.inr (isAlpha_of_mem_timestamp char member)
    · exact (inductionHypothesis char member).imp_left (List.mem_cons_of_mem _)
  | more isLetter later inductionHypothesis =>
    intro char member
    exact (inductionHypothesis char member).imp_left (List.mem_cons_of_mem _)

/-- A character that is no letter occurs as often as before. -/
theorem count_of_renamed
    {char : Char}
    (noLetter : char.isAlpha = false)
    (renamed : Renamed inRun text after) :
    after.count char = text.count char := by
  have other {letter : Char} (isLetter : letter.isAlpha = true) (rest : Text) :
      List.count char (letter :: rest) = rest.count char := by
    apply List.count_cons_of_ne
    rintro rfl
    rw [noLetter] at isLetter
    exact Bool.false_ne_true isLetter
  have word : Keyword.timestamp.count char = 0 := by
    apply List.count_eq_zero_of_not_mem
    intro member
    rw [isAlpha_of_mem_timestamp char member] at noLetter
    exact Bool.false_ne_true noLetter.symm
  induction renamed with
  | nil => rfl
  | keep later inductionHypothesis =>
    rw [List.count_cons, List.count_cons, inductionHypothesis]
  | first isLetter later inductionHypothesis =>
    rw [List.count_append, word, Nat.zero_add, inductionHypothesis, other isLetter]
  | more isLetter later inductionHypothesis => rw [inductionHypothesis, other isLetter]

theorem head?_of_renamed
    (renamed : Renamed false text after)
    (solid : ∀ char ∈ text.head?, isWhiteSpace char = false) :
    ∀ char ∈ after.head?, isWhiteSpace char = false := by
  cases renamed with
  | nil => simp
  | keep later => exact solid
  | first isLetter later =>
    rintro _ ⟨rfl⟩
    rfl

theorem getLast?_of_renamed
    (renamed : Renamed inRun text after)
    (solid : ∀ char ∈ text.getLast?, isWhiteSpace char = false) :
    ∀ char ∈ after.getLast?, isWhiteSpace char = false := by
  have ofRest (char : Char) (rest : Text)
      (solid : ∀ last ∈ (char :: rest).getLast?, isWhiteSpace last = false) :
      ∀ last ∈ rest.getLast?, isWhiteSpace last = false := by
    intro last member
    apply solid
    rw [List.getLast?_cons, Option.mem_def.mp member]
    rfl
  induction renamed with
  | nil => simp
  | @keep inRun char rest after later inductionHypothesis =>
    by_cases final : rest = []
    · subst final
      cases later
      exact solid
    · have lastEquality := List.getLast?_eq_some_getLast (later.ne_nil final)
      have lastSolid := inductionHypothesis (ofRest char rest solid) _ lastEquality
      rw [List.getLast?_cons, lastEquality]
      rintro _ ⟨rfl⟩
      exact lastSolid
  | @first inRun letter rest after isLetter later inductionHypothesis =>
    rw [List.getLast?_append]
    cases last : after.getLast? with
    | none =>
      rintro _ ⟨rfl⟩
      rfl
    | some char =>
      rintro _ ⟨rfl⟩
      exact inductionHypothesis (ofRest letter rest solid) char last
  | @more letter rest after isLetter later inductionHypothesis =>
    exact inductionHypothesis (ofRest letter rest solid)

theorem trimmed (renamed : Renamed false text after) (trimmed : text.trim = text) :
    after.trim = after := by
  apply Text.trim_eq_self
  · apply renamed.head?_of_renamed
    rw [← trimmed]
    exact Text.head?_trim text
  · apply renamed.getLast?_of_renamed
    rw [← trimmed]
    exact Text.getLast?_trim text

end Renamed

/-- Whether the parts of a kind, renamed, are parts of that kind. -/
def Renames (kind : Text → Prop) : Prop :=
  ∀ text after, kind text → Renamed false text after → kind after

theorem renames_table : Renames IsTable := by
  intro text after table renamed
  exact ⟨renamed.tableText table.written, renamed.ne_nil table.nonempty,
    renamed.trimmed table.trimmed⟩

theorem renames_column : Renames IsColumn := by
  intro text after column renamed
  cases column with
  | bare nonempty plain =>
    refine .bare (renamed.ne_nil nonempty) ?_
    intro char member
    rcases renamed.mem_or_isAlpha char member with kept | letter
    · exact plain char kept
    · exact ⟨Text.isWhiteSpace_of_isAlpha letter, isDelimiter_of_isAlpha letter⟩
  | quoted name =>
    rw [← List.append_nil (Quoted.quote '"' name)] at renamed
    obtain ⟨name, behind, rfl, outside⟩ := renamed.exists_quote_append rfl
    cases outside
    rw [List.append_nil]
    exact .quoted name

theorem renames_value : Renames IsValue := by
  intro text after value renamed
  exact ⟨renamed.valueText value.written, renamed.ne_nil value.nonempty,
    renamed.trimmed value.trimmed⟩

end DateLiteral
end SqlDump
