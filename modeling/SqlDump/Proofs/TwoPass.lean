import SqlDump.Proofs.Lexemes
import SqlDump.Proofs.Scanning

/-!
# Scanning a script agrees with reading it in two passes

The scanner reads a script once, character by character.  Inside quotes and comments it is
followed to the end of the lexeme it is in; between lexemes it stands in plain text, and what it
still makes of its input is what the two passes make of it.
-/

namespace SqlDump

open Unicode (isWhiteSpace)

namespace Scanner
namespace State

/-! ## Scanning one lexeme -/

/-- The two modes of a kind of quotes: inside them, and behind a mark that may close them. -/
structure QuoteModes (mark : Char) (inside behind : Mode) : Prop where
  step_mark : ∀ depth reversed,
    step ⟨inside, depth, reversed⟩ mark = (⟨behind, depth, mark :: reversed⟩, none)
  step_other : ∀ depth reversed char, char ≠ mark →
    step ⟨inside, depth, reversed⟩ char = (⟨inside, depth, char :: reversed⟩, none)
  step_doubled : ∀ depth reversed,
    step ⟨behind, depth, reversed⟩ mark = (⟨inside, depth, mark :: reversed⟩, none)
  continues_eq : ∀ char, behind.continues char = (char == mark)
  isPlain_behind : behind.isPlain = true
  heldBack_behind : behind.heldBack = []
  heldBack_inside : inside.heldBack = []

theorem stringModes : QuoteModes '\'' .string .stringQuote where
  step_mark _ _ := rfl
  step_other _ _ char other := by simp [step, push, other]
  step_doubled _ _ := rfl
  continues_eq _ := rfl
  isPlain_behind := rfl
  heldBack_behind := rfl
  heldBack_inside := rfl

theorem identifierModes : QuoteModes '"' .identifier .identifierQuote where
  step_mark _ _ := rfl
  step_other _ _ char other := by simp [step, push, other]
  step_doubled _ _ := rfl
  continues_eq _ := rfl
  isPlain_behind := rfl
  heldBack_behind := rfl
  heldBack_inside := rfl

/-- Inside quotes everything up to the closing mark is gathered. -/
theorem statementsIn_quoted
    {mark : Char}
    {inside behind : Mode}
    (modes : QuoteModes mark inside behind)
    (depth : Nat)
    (reversed text : Text) :
    statementsIn ⟨inside, depth, reversed⟩ text =
      statementsIn ⟨.normal, depth, (Lexeme.splitQuoted mark text).1.reverse ++ reversed⟩
        (Lexeme.splitQuoted mark text).2 := by
  fun_induction Lexeme.splitQuoted mark text generalizing reversed with
  | case1 =>
    simp [statementsIn_nil, gathered_eq_reverse modes.heldBack_inside]
  | case2 char =>
    by_cases closing : char = mark
    · subst closing
      simp [statementsIn_cons, modes.step_mark, statementsIn_nil,
        gathered_eq_reverse modes.heldBack_behind]
    · simp [statementsIn_cons, modes.step_other _ _ _ closing, statementsIn_nil,
        gathered_eq_reverse modes.heldBack_inside]
  | case3 char next rest doubled inductionHypothesis =>
    obtain ⟨rfl, rfl⟩ := doubled
    simp [statementsIn_cons, modes.step_mark, modes.step_doubled, inductionHypothesis]
  | case4 next rest single =>
    have other : next ≠ mark := by simpa using single
    have settles := statementsIn_settled ⟨behind, depth, mark :: reversed⟩ (next :: rest)
      modes.isPlain_behind (by simp [modes.continues_eq, other])
    rw [statementsIn_cons, modes.step_mark, ← settles]
    simp [settled, modes.heldBack_behind]
  | case5 char next rest single other inductionHypothesis =>
    rw [statementsIn_cons, modes.step_other _ _ _ other, inductionHypothesis]
    simp

/-- A string or a quoted identifier is gathered. -/
theorem statementsIn_quote
    (depth : Nat)
    (reversed : Text)
    (mark : Char)
    (rest : Text)
    (quote : mark = '\'' ∨ mark = '"') :
    statementsIn ⟨.normal, depth, reversed⟩ (mark :: rest) =
      statementsIn
        ⟨.normal, depth, (mark :: (Lexeme.splitQuoted mark rest).1).reverse ++ reversed⟩
        (Lexeme.splitQuoted mark rest).2 := by
  have gathered (text : Text) :
      text.reverse ++ mark :: reversed = (mark :: text).reverse ++ reversed := by simp
  rw [statementsIn_cons, ← gathered]
  rcases quote with rfl | rfl
  · exact statementsIn_quoted stringModes depth ('\'' :: reversed) rest
  · exact statementsIn_quoted identifierModes depth ('"' :: reversed) rest

theorem statementsIn_insideLine (depth : Nat) (reversed text : Text) :
    statementsIn ⟨.lineComment, depth, reversed⟩ text =
      statementsIn ⟨.normal, depth, reversed⟩ (text.dropWhile (!Lexeme.endsLine ·)) := by
  induction text with
  | nil => rfl
  | cons char rest inductionHypothesis =>
    by_cases ends : char = '\r' ∨ char = '\n'
    · have last : Lexeme.endsLine char = true := by simpa [Lexeme.endsLine] using ends
      have behind : step ⟨.lineComment, depth, reversed⟩ char =
          step ⟨.normal, depth, reversed⟩ char := by
        rcases ends with rfl | rfl <;> rfl
      rw [List.dropWhile_cons_of_neg (by simp [last]), statementsIn_cons, statementsIn_cons, behind]
    · have more : Lexeme.endsLine char = false := by simpa [Lexeme.endsLine] using ends
      simp [statementsIn_cons, more, step, ends, inductionHypothesis]

/-- A line comment is dropped up to the end of its line. -/
theorem statementsIn_dashes
    (depth : Nat)
    (reversed rest : Text)
    (second : rest.head? = some '-') :
    statementsIn ⟨.normal, depth, reversed⟩ ('-' :: rest) =
      statementsIn ⟨.normal, depth, reversed⟩ (rest.dropWhile (!Lexeme.endsLine ·)) := by
  obtain ⟨later, rfl⟩ := List.head?_eq_some_iff.mp second
  rw [statementsIn_cons, List.dropWhile_cons_of_pos (by decide)]
  exact statementsIn_insideLine depth reversed later

theorem statementsIn_insideBlock (depth : Nat) (reversed text : Text) :
    statementsIn ⟨.blockComment, depth, reversed⟩ text =
      match (Lexeme.splitBlock text).2 with
      | some rest => statementsIn (leaveBlockComment ⟨.blockCommentStar, depth, reversed⟩) rest
      | none => statementsIn ⟨.normal, depth, reversed⟩ [] := by
  fun_induction Lexeme.splitBlock text with
  | case1 => rfl
  | case2 char =>
    by_cases star : char = '*' <;>
      simp [statementsIn_cons, step, star, statementsIn_nil, gathered, enter, Mode.heldBack,
        pendingText]
  | case3 char next rest closing =>
    obtain ⟨rfl, rfl⟩ := closing
    simp [statementsIn_cons, step, enter]
  | case4 char next rest open_ inductionHypothesis =>
    rw [← inductionHypothesis, statementsIn_cons]
    by_cases star : char = '*'
    · -- a star that no slash follows leaves the comment as it was
      have slash : next ≠ '/' := by simpa [star] using open_
      simp [statementsIn_cons, step, star, slash, enter]
    · simp [step, star]

/-- A block comment is dropped up to the first star with a slash. -/
theorem statementsIn_slashStar
    (depth : Nat)
    (reversed rest : Text)
    (second : rest.head? = some '*') :
    statementsIn ⟨.normal, depth, reversed⟩ ('/' :: rest) =
      match (Lexeme.splitBlock rest.tail).2 with
      | some after => statementsIn (leaveBlockComment ⟨.blockCommentStar, depth, reversed⟩) after
      | none => statementsIn ⟨.normal, depth, reversed⟩ [] := by
  obtain ⟨later, rfl⟩ := List.head?_eq_some_iff.mp second
  rw [statementsIn_cons]
  exact statementsIn_insideBlock depth reversed later

/-- A character that is a lexeme of its own is gathered, unless it ends a statement. -/
theorem statementsIn_plain
    (depth : Nat)
    (reversed : Text)
    (char : Char)
    (rest : Text)
    (noQuote : ¬(char = '\'' ∨ char = '"'))
    (noLine : ¬(char = '-' ∧ rest.head? = some '-'))
    (noBlock : ¬(char = '/' ∧ rest.head? = some '*'))
    (noEnd : ¬(char = ';' ∧ depth = 0)) :
    statementsIn ⟨.normal, depth, reversed⟩ (char :: rest) =
      statementsIn ⟨.normal, depthAfter depth char, char :: reversed⟩ rest := by
  rw [statementsIn_cons]
  by_cases dash : char = '-'
  · subst dash
    have fresh : rest.head?.any Mode.dash.continues = false := by
      cases rest <;> simp_all [Mode.continues]
    exact (statementsIn_settled ⟨.dash, depth, reversed⟩ rest rfl fresh).symm
  by_cases slash : char = '/'
  · subst slash
    have fresh : rest.head?.any Mode.slash.continues = false := by
      cases rest <;> simp_all [Mode.continues]
    exact (statementsIn_settled ⟨.slash, depth, reversed⟩ rest rfl fresh).symm
  have taken : step ⟨.normal, depth, reversed⟩ char =
      (⟨.normal, depthAfter depth char, char :: reversed⟩, none) := by
    simp only [step, stepPlain, depthAfter]
    split_ifs <;> simp_all [push, enter]
  rw [taken]
  rfl

/-! ## Scanning to the end -/

/-- The text gathered by the scanner is that of the current piece, less some white space at its
start; if there is any, its last character is that of the output of the first pass. -/
structure SamePiece (reversed piece : Text) (previous : Option Char) : Prop where
  piece_eq : ∃ blank, Text.isBlank blank = true ∧ piece = blank ++ reversed.reverse
  previous_eq : ∀ last ∈ reversed.head?, previous = some last

namespace SamePiece

theorem start (previous : Option Char) : SamePiece [] [] previous :=
  ⟨⟨[], rfl, rfl⟩, by simp⟩

theorem append
    {reversed piece : Text}
    {previous : Option Char}
    (same : SamePiece reversed piece previous)
    {text : Text}
    (nonempty : text ≠ []) :
    SamePiece (text.reverse ++ reversed) (piece ++ text) text.getLast? := by
  obtain ⟨blank, white, rfl⟩ := same.piece_eq
  refine ⟨⟨blank, white, by simp⟩, ?_⟩
  obtain ⟨front, final, rfl⟩ := List.eq_nil_or_concat text |>.resolve_left nonempty
  simp

theorem ofText?_eq
    {reversed piece : Text}
    {previous : Option Char}
    (same : SamePiece reversed piece previous) :
    (Statement.ofText? reversed.reverse).toList.map Statement.text = trimmedTexts [piece] := by
  obtain ⟨blank, white, rfl⟩ := same.piece_eq
  simp only [trimmedTexts, List.map_cons, List.map_nil, Text.trim_append_of_isBlank _ _ white,
    Statement.ofText?]
  split <;> simp_all

/-- Behind a block comment a space is added to both texts, or to neither, or to a piece that was
blank. -/
theorem leaveBlockComment
    {reversed piece : Text}
    {previous : Option Char}
    (same : SamePiece reversed piece previous)
    (depth : Nat) :
    ∃ after, State.leaveBlockComment ⟨.blockCommentStar, depth, reversed⟩ = ⟨.normal, depth, after⟩ ∧
      if previous.any (!isWhiteSpace ·) then SamePiece after (piece ++ [' ']) (some ' ')
      else SamePiece after piece previous := by
  cases reversed with
  | nil =>
    refine ⟨[], rfl, ?_⟩
    split
    · obtain ⟨blank, white, rfl⟩ := same.piece_eq
      refine ⟨⟨blank ++ [' '], ?_, by simp⟩, by simp⟩
      rw [Text.isBlank_append, white]
      rfl
    · exact same
  | cons last earlier =>
    have known : previous = some last := same.previous_eq last rfl
    by_cases white : isWhiteSpace last = true
    · refine ⟨last :: earlier, by simp [State.leaveBlockComment, white, enter], ?_⟩
      simpa [known, white] using same
    · refine ⟨' ' :: last :: earlier, by simp [State.leaveBlockComment, white, enter, push], ?_⟩
      have spaced := same.append (show [' '] ≠ [] by simp)
      simpa [known, white] using spaced

end SamePiece

theorem trimmedTexts_cons (piece : Text) (later : List Text) :
    trimmedTexts (piece :: later) = trimmedTexts [piece] ++ trimmedTexts later := by
  simp [trimmedTexts, List.filter_cons]
  split <;> simp

/-- From plain text on, the scanner makes of its input what the two passes make of it. -/
theorem map_text_statementsIn
    (text : Text)
    (depth : Nat)
    {reversed piece : Text}
    {previous : Option Char}
    (same : SamePiece reversed piece previous) :
    (statementsIn ⟨.normal, depth, reversed⟩ text).map Statement.text =
      trimmedTexts (pieces depth piece (withoutComments previous (lexemes text))) := by
  fun_induction lexemes text generalizing depth reversed piece previous with
  | case1 =>
    rw [statementsIn_nil, gathered_normal]
    exact same.ofText?_eq
  | case2 char rest inductionHypothesis =>
    unfold Lexeme.first at inductionHypothesis ⊢
    split_ifs at inductionHypothesis ⊢ with quote dashes opening
    · rw [statementsIn_quote depth reversed char rest quote]
      exact inductionHypothesis depth (same.append (List.cons_ne_nil _ _))
    · obtain ⟨rfl, second⟩ := dashes
      rw [statementsIn_dashes depth reversed rest second]
      exact inductionHypothesis depth same
    · obtain ⟨rfl, second⟩ := opening
      rw [statementsIn_slashStar depth reversed rest second]
      split at inductionHypothesis
      · rename_i body after cut
        rw [cut]
        obtain ⟨next, left, spaced⟩ := same.leaveBlockComment depth
        simp only [left, withoutComments, true_and]
        split at spaced
        · rename_i solid
          rw [if_pos solid]
          exact inductionHypothesis depth spaced
        · rename_i blank
          rw [if_neg blank]
          exact inductionHypothesis depth spaced
      · rename_i body cut
        rw [cut]
        simpa [withoutComments] using inductionHypothesis depth same
    · by_cases ends : char = ';' ∧ depth = 0
      · obtain ⟨rfl, rfl⟩ := ends
        have later := inductionHypothesis 0 (SamePiece.start (some ';'))
        have cut : step ⟨.normal, 0, reversed⟩ ';' =
            ({}, Statement.ofText? reversed.reverse) := rfl
        rw [statementsIn_cons, cut, List.map_append, same.ofText?_eq]
        simp only [withoutComments, pieces, and_self, if_true]
        rw [trimmedTexts_cons piece (pieces 0 [] _)]
        exact congrArg (trimmedTexts [piece] ++ ·) later
      · rw [statementsIn_plain depth reversed char rest quote dashes opening ends]
        have later := inductionHypothesis (depthAfter depth char)
          (same.append (show [char] ≠ [] by simp))
        simp only [withoutComments, pieces, if_neg ends]
        exact later

end State
end Scanner

/-- A script holds the statements that two passes find in it: the first lexes it, its lexemes
being all of it, and drops the comments, the second cuts at the plain semicolons outside
parentheses. -/
theorem Script.map_text_statements (script : Text) :
    (lexemes script).flatMap Lexeme.text = script ∧
      (Script.statements script).map Statement.text = twoPassTexts script := by
  refine ⟨flatMap_text_lexemes script, ?_⟩
  rw [Script.statements_eq_statementsIn]
  exact Scanner.State.map_text_statementsIn script 0 (Scanner.State.SamePiece.start none)

end SqlDump
