import SqlDump.Statement

/-!
# The statement scanner, character by character

A script is cut into statements at its semicolons, except those inside a string, a quoted
identifier, a comment or parentheses.  Comments are dropped; a block comment that directly
follows other text leaves a space, so that what stood around it does not join.  Everything the
scanner knows after some characters is a `State`, and one character takes one state to the next.
-/

namespace SqlDump
namespace Scanner

/-- The lexical region a scanner stands in. -/
inductive Mode where
  /-- Outside strings, quoted identifiers and comments. -/
  | normal
  /-- After a dash that may open a line comment. -/
  | dash
  /-- After a slash that may open a block comment. -/
  | slash
  /-- Inside a string. -/
  | string
  /-- After a quote inside a string: it ended the string unless another quote follows. -/
  | stringQuote
  /-- Inside a quoted identifier. -/
  | identifier
  /-- After a double quote inside an identifier: it ended it unless another follows. -/
  | identifierQuote
  /-- Inside a line comment. -/
  | lineComment
  /-- Inside a block comment. -/
  | blockComment
  /-- After a star inside a block comment, which a slash would end. -/
  | blockCommentStar
  deriving DecidableEq, Repr, Inhabited

namespace Mode

/-- Whether the scanner may still be inside a string. -/
def inString : Mode → Bool
  | .string | .stringQuote => true
  | _ => false

/-- Whether the scanner may still be inside a quoted identifier. -/
def inIdentifier : Mode → Bool
  | .identifier | .identifierQuote => true
  | _ => false

/-- Whether the scanner is inside a line comment. -/
def inLineComment : Mode → Bool
  | .lineComment => true
  | _ => false

/-- Whether the scanner is inside a block comment. -/
def inBlockComment : Mode → Bool
  | .blockComment | .blockCommentStar => true
  | _ => false

/-- The character held back until its successor tells whether it opens a comment. -/
def heldBack : Mode → Text
  | .dash => ['-']
  | .slash => ['/']
  | _ => []

end Mode

/-- What a scanner knows between two characters. -/
structure State where
  /-- The lexical region. -/
  mode : Mode := .normal
  /-- The number of open parentheses. -/
  depth : Nat := 0
  /-- The text gathered for the current statement, last character first. -/
  reversed : Text := []
  deriving DecidableEq, Repr, Inhabited

namespace State

/-- The text gathered for the current statement. -/
def pendingText (state : State) : Text :=
  state.reversed.reverse

/-- Gathers one character. -/
def push (state : State) (char : Char) : State :=
  { state with reversed := char :: state.reversed }

@[simp] theorem pendingText_push (state : State) (char : Char) :
    (state.push char).pendingText = state.pendingText ++ [char] := by
  simp [push, pendingText]

/-- Moves to another lexical region. -/
def enter (state : State) (mode : Mode) : State :=
  { state with mode }

@[simp] theorem pendingText_enter (state : State) (mode : Mode) :
    (state.enter mode).pendingText = state.pendingText := rfl

/-- Leaves a block comment: text that directly precedes it gets a space. -/
def leaveBlockComment (state : State) : State :=
  match state.reversed with
  | [] => state.enter .normal
  | last :: _ =>
    if Unicode.isWhiteSpace last then state.enter .normal else (state.push ' ').enter .normal

/-- Hands out the gathered text as a statement, if it is not blank, and gathers from nothing. -/
def takeStatement (state : State) : State × Option Statement :=
  ({ state with reversed := [] }, Statement.ofText? state.pendingText)

/-- Takes a character outside strings, quoted identifiers and comments. -/
def stepPlain (state : State) (char : Char) : State × Option Statement :=
  if char = '-' then (state.enter .dash, none)
  else if char = '/' then (state.enter .slash, none)
  else if char = '\'' then ((state.push char).enter .string, none)
  else if char = '"' then ((state.push char).enter .identifier, none)
  else if char = '(' then
    ({ (state.push char).enter .normal with depth := state.depth + 1 }, none)
  else if char = ')' then
    ({ (state.push char).enter .normal with depth := state.depth - 1 }, none)
  else if char = ';' ∧ state.depth = 0 then (state.enter .normal).takeStatement
  else ((state.push char).enter .normal, none)

/-- Takes one character; the character may complete a statement. -/
def step (state : State) (char : Char) : State × Option Statement :=
  match state.mode with
  | .normal => state.stepPlain char
  | .dash =>
    if char = '-' then (state.enter .lineComment, none) else (state.push '-').stepPlain char
  | .slash =>
    if char = '*' then (state.enter .blockComment, none) else (state.push '/').stepPlain char
  | .string =>
    if char = '\'' then ((state.push char).enter .stringQuote, none) else (state.push char, none)
  | .stringQuote =>
    if char = '\'' then ((state.push char).enter .string, none) else state.stepPlain char
  | .identifier =>
    if char = '"' then ((state.push char).enter .identifierQuote, none)
    else (state.push char, none)
  | .identifierQuote =>
    if char = '"' then ((state.push char).enter .identifier, none) else state.stepPlain char
  | .lineComment =>
    if char = '\r' ∨ char = '\n' then ((state.push char).enter .normal, none) else (state, none)
  | .blockComment =>
    if char = '*' then (state.enter .blockCommentStar, none) else (state, none)
  | .blockCommentStar =>
    if char = '/' then (state.leaveBlockComment, none)
    else if char = '*' then (state, none)
    else (state.enter .blockComment, none)

/-- Takes the characters of a text in turn; the statements they complete are listed in order. -/
def run (state : State) : Text → State × List Statement
  | [] => (state, [])
  | char :: rest =>
    let (next, completed) := state.step char
    let (last, later) := next.run rest
    (last, completed.toList ++ later)

@[simp] theorem run_nil (state : State) : state.run [] = (state, []) := rfl

theorem run_cons (state : State) (char : Char) (rest : Text) :
    state.run (char :: rest) =
      (((state.step char).1.run rest).1,
        (state.step char).2.toList ++ ((state.step char).1.run rest).2) := rfl

/-- Running over two texts in a row is running over the first and from there over the second. -/
theorem run_append (state : State) (front back : Text) :
    state.run (front ++ back) =
      (((state.run front).1.run back).1,
        (state.run front).2 ++ ((state.run front).1.run back).2) := by
  induction front generalizing state with
  | nil => simp
  | cons char rest inductionHypothesis =>
    simp only [List.cons_append, run_cons, inductionHypothesis, List.append_assoc]

/-- Gathers the character held back, which opens no comment. -/
def release (state : State) : State :=
  match state.mode with
  | .dash => state.push '-'
  | .slash => state.push '/'
  | _ => state

theorem pendingText_release (state : State) :
    state.release.pendingText = state.pendingText ++ state.mode.heldBack := by
  unfold release
  cases state.mode <;> simp [Mode.heldBack]

/-- Ends the input: hands out the statement left unterminated and forgets where it stood. -/
def flush (state : State) : State × Option Statement :=
  let (taken, statement?) := state.release.takeStatement
  ({ taken.enter .normal with depth := 0 }, statement?)

/-- The statement left unterminated at the end of the input. -/
def unterminated? (state : State) : Option Statement :=
  Statement.ofText? (state.pendingText ++ state.mode.heldBack)

/-- Wherever the input ends, nothing of it is left behind. -/
theorem flush_eq (state : State) : state.flush = ({}, state.unterminated?) := by
  rw [unterminated?, ← pendingText_release]
  rfl

end State
end Scanner
end SqlDump
