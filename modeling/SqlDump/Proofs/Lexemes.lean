import Mathlib.Tactic.SplitIfs
import SqlDump.Text.Trim

/-!
# The lexemes of a script

A script is read in two passes.  The first cuts it, from left to right, into strings, quoted
identifiers, comments and plain characters, and drops the comments.  The second cuts what is left
at the semicolons that stand in plain text outside parentheses.
-/

namespace SqlDump

/-- An indivisible part of SQL without comments. -/
inductive Atom where
  /-- A character outside quotes. -/
  | plain (char : Char)
  /-- A string or a quoted identifier with its quotes. -/
  | quoted (text : Text)
  deriving DecidableEq, Repr

namespace Atom

/-- The characters of an atom. -/
def text : Atom → Text
  | .plain char => [char]
  | .quoted text => text

end Atom

/-- An indivisible part of a script. -/
inductive Lexeme where
  /-- A part that is kept. -/
  | kept (atom : Atom)
  /-- Two dashes and the rest of the line without its end. -/
  | lineComment (text : Text)
  /-- A comment from a slash and a star on, perhaps ended by a star and a slash. -/
  | blockComment (text : Text) (terminated : Bool)
  deriving DecidableEq, Repr

namespace Lexeme

/-- The characters of a lexeme. -/
def text : Lexeme → Text
  | .kept atom => atom.text
  | .lineComment text => text
  | .blockComment text _ => text

/-- Cuts a text that follows an opening mark behind the mark that closes the quotes; a doubled
mark does not close them.  Without a closing mark everything is quoted. -/
def splitQuoted (mark : Char) : Text → Text × Text
  | [] => ([], [])
  | [char] => ([char], [])
  | char :: next :: rest =>
    if char = mark ∧ next = mark then
      (char :: next :: (splitQuoted mark rest).1, (splitQuoted mark rest).2)
    else if char = mark then ([char], next :: rest)
    else
      (char :: (splitQuoted mark (next :: rest)).1, (splitQuoted mark (next :: rest)).2)

/-- Whether a character ends a line. -/
def endsLine (char : Char) : Bool :=
  char == '\r' || char == '\n'

/-- Cuts a text that follows the opening of a block comment behind the first star with a slash,
if there is one: the comment and what follows it. -/
def splitBlock : Text → Text × Option Text
  | [] => ([], none)
  | [char] => ([char], none)
  | char :: next :: rest =>
    if char = '*' ∧ next = '/' then ([char, next], some rest)
    else (char :: (splitBlock (next :: rest)).1, (splitBlock (next :: rest)).2)

/-- The first lexeme of a text, given its first character, and what follows it. -/
def first (char : Char) (rest : Text) : Lexeme × Text :=
  if char = '\'' ∨ char = '"' then
    (.kept (.quoted (char :: (splitQuoted char rest).1)), (splitQuoted char rest).2)
  else if char = '-' ∧ rest.head? = some '-' then
    (.lineComment (char :: rest.takeWhile (!endsLine ·)), rest.dropWhile (!endsLine ·))
  else if char = '/' ∧ rest.head? = some '*' then
    match splitBlock rest.tail with
    | (body, some after) => (.blockComment (char :: '*' :: body) true, after)
    | (body, none) => (.blockComment (char :: '*' :: body) false, [])
  else (.kept (.plain char), rest)

theorem splitQuoted_append (mark : Char) (text : Text) :
    (splitQuoted mark text).1 ++ (splitQuoted mark text).2 = text := by
  fun_induction splitQuoted mark text <;> simp_all

theorem splitBlock_append (text : Text) :
    (splitBlock text).1 ++ (splitBlock text).2.getD [] = text := by
  fun_induction splitBlock text <;> simp_all

/-- The first lexeme and what follows it are the text. -/
theorem text_first_append (char : Char) (rest : Text) :
    (first char rest).1.text ++ (first char rest).2 = char :: rest := by
  unfold first
  split_ifs with quote dashes opening
  · simp [text, Atom.text, splitQuoted_append]
  · simp [text, List.takeWhile_append_dropWhile]
  · have whole := splitBlock_append rest.tail
    have star : rest = '*' :: rest.tail := by
      cases rest with
      | nil => simp at opening
      | cons next later => simpa using opening.2
    split
    · rename_i body after cut
      rw [cut] at whole
      rw [star, ← whole]
      simp [text]
    · rename_i body cut
      rw [cut] at whole
      rw [star, ← whole]
      simp [text]
  · rfl

theorem text_first_ne_nil (char : Char) (rest : Text) : (first char rest).1.text ≠ [] := by
  unfold first
  split_ifs
  · simp [text, Atom.text]
  · simp [text]
  · split <;> simp [text]
  · simp [text, Atom.text]

theorem length_first_lt (char : Char) (rest : Text) :
    (first char rest).2.length < (char :: rest).length := by
  have whole := congrArg List.length (text_first_append char rest)
  have positive := List.length_pos_iff.mpr (text_first_ne_nil char rest)
  rw [List.length_append] at whole
  omega

end Lexeme

/-- The lexemes of a text from left to right. -/
def lexemes : Text → List Lexeme
  | [] => []
  | char :: rest => (Lexeme.first char rest).1 :: lexemes (Lexeme.first char rest).2
termination_by text => text.length
decreasing_by exact Lexeme.length_first_lt char rest

/-- The lexemes hold every character of the text once and in order. -/
theorem flatMap_text_lexemes (text : Text) : (lexemes text).flatMap Lexeme.text = text := by
  fun_induction lexemes text with
  | case1 => rfl
  | case2 char rest inductionHypothesis =>
    rw [List.flatMap_cons, inductionHypothesis, Lexeme.text_first_append]

/-- The first pass: drops the comments.  A terminated block comment leaves a space if `previous`,
the last character of the output so far, is no white space. -/
def withoutComments (previous : Option Char) : List Lexeme → List Atom
  | [] => []
  | .kept atom :: rest => atom :: withoutComments atom.text.getLast? rest
  | .lineComment _ :: rest => withoutComments previous rest
  | .blockComment _ terminated :: rest =>
    if terminated ∧ previous.any (!Unicode.isWhiteSpace ·) then
      .plain ' ' :: withoutComments (some ' ') rest
    else withoutComments previous rest

/-- The number of open parentheses behind a plain character. -/
def depthAfter (depth : Nat) (char : Char) : Nat :=
  if char = '(' then depth + 1 else if char = ')' then depth - 1 else depth

/-- The second pass: cuts at the plain semicolons outside parentheses, where `depth` parentheses
are open and `piece` was read since the last cut. -/
def pieces (depth : Nat) (piece : Text) : List Atom → List Text
  | [] => [piece]
  | .quoted text :: rest => pieces depth (piece ++ text) rest
  | .plain char :: rest =>
    if char = ';' ∧ depth = 0 then piece :: pieces 0 [] rest
    else pieces (depthAfter depth char) (piece ++ [char]) rest

/-- Pieces without the white space around them; blank pieces are dropped. -/
def trimmedTexts (texts : List Text) : List Text :=
  (texts.map Text.trim).filter (!·.isEmpty)

/-- The statement texts of a script, found in two passes. -/
def twoPassTexts (script : Text) : List Text :=
  trimmedTexts (pieces 0 [] (withoutComments none (lexemes script)))

end SqlDump
