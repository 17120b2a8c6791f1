import Mathlib.Tactic.SplitIfs
import SqlDump.Script

/-!
# What a scanner does with a character

A scanner outside quotes and comments may hold a character back, or wait for a quote to be
doubled, but unless the next character settles that, it goes on as if it stood in plain text.
Every other step gathers the character, belongs to a comment, or ends a statement.
-/

namespace SqlDump
namespace Scanner

namespace Mode

/-- Whether the next character is plain text, unless it continues a delimiter. -/
def isPlain : Mode → Bool
  | .normal | .dash | .slash | .stringQuote | .identifierQuote => true
  | _ => false

/-- Whether the scanner is inside a comment. -/
def inComment (mode : Mode) : Bool :=
  mode.inLineComment || mode.inBlockComment

/-- Whether a character forms one delimiter with the character before it. -/
def continues (mode : Mode) (char : Char) : Bool :=
  match mode with
  | .dash => char == '-'
  | .slash => char == '*'
  | .stringQuote => char == '\''
  | .identifierQuote => char == '"'
  | _ => false

theorem inComment_of_isPlain {mode : Mode} (plain : mode.isPlain = true) :
    mode.inComment = false := by
  cases mode with
  | normal | dash | slash | stringQuote | identifierQuote => rfl
  | string | identifier | lineComment | blockComment | blockCommentStar =>
    exact absurd plain Bool.false_ne_true

theorem heldBack_of_inComment {mode : Mode} (inComment : mode.inComment = true) :
    mode.heldBack = [] := by
  cases mode with
  | normal | dash | slash | string | stringQuote | identifier | identifierQuote =>
    exact absurd inComment Bool.false_ne_true
  | lineComment | blockComment | blockCommentStar => rfl

end Mode

namespace State

/-- Everything gathered for the current statement, the character held back included. -/
def gathered (state : State) : Text :=
  state.pendingText ++ state.mode.heldBack

theorem gathered_eq_reverse
    {mode : Mode}
    (nothing : mode.heldBack = [])
    (depth : Nat)
    (reversed : Text) :
    gathered ⟨mode, depth, reversed⟩ = reversed.reverse := by
  simp [gathered, pendingText, nothing]

@[simp] theorem gathered_normal (depth : Nat) (reversed : Text) :
    gathered ⟨.normal, depth, reversed⟩ = reversed.reverse :=
  gathered_eq_reverse rfl depth reversed

/-- The state in plain text with the same text gathered. -/
def settled (state : State) : State where
  mode := .normal
  depth := state.depth
  reversed := state.mode.heldBack ++ state.reversed

@[simp] theorem settled_mode (state : State) : state.settled.mode = .normal := rfl

@[simp] theorem settled_depth (state : State) : state.settled.depth = state.depth := rfl

@[simp] theorem gathered_settled (state : State) : state.settled.gathered = state.gathered := by
  obtain ⟨mode, depth, reversed⟩ := state
  cases mode <;> simp [gathered, settled, pendingText, Mode.heldBack]

@[simp] theorem leaveBlockComment_mode (state : State) :
    state.leaveBlockComment.mode = .normal := by
  unfold leaveBlockComment
  split
  · rfl
  · split <;> rfl

@[simp] theorem leaveBlockComment_depth (state : State) :
    state.leaveBlockComment.depth = state.depth := by
  unfold leaveBlockComment
  split
  · rfl
  · split <;> rfl

theorem unterminated?_eq (state : State) :
    state.unterminated? = Statement.ofText? state.gathered := rfl

/-- In plain text a character is taken as if nothing were held back, unless it continues a
delimiter. -/
theorem step_of_isPlain
    (state : State)
    (char : Char)
    (plain : state.mode.isPlain = true)
    (fresh : state.mode.continues char = false) :
    state.step char = state.settled.stepPlain char := by
  obtain ⟨mode, depth, reversed⟩ := state
  have other : ∀ expected, (char == expected) = false → ¬ char = expected := by simp
  cases mode with
  | normal => rfl
  | dash =>
    simp only [step, other '-' fresh, if_false]
    rfl
  | slash =>
    simp only [step, other '*' fresh, if_false]
    rfl
  | stringQuote =>
    simp only [step, other '\'' fresh, if_false]
    rfl
  | identifierQuote =>
    simp only [step, other '"' fresh, if_false]
    rfl
  | string | identifier | lineComment | blockComment | blockCommentStar =>
    simp [Mode.isPlain] at plain

/-- What a character does in plain text with nothing held back. -/
theorem stepPlain_cases (state : State) (char : Char) (normal : state.mode = .normal) :
    (char = ';' ∧ state.depth = 0 ∧
      state.stepPlain char = ({}, Statement.ofText? state.gathered)) ∨
    (¬(char = ';' ∧ state.depth = 0) ∧
      (state.stepPlain char).1.gathered = state.gathered ++ [char] ∧
      (state.stepPlain char).1.mode.inComment = false ∧ (state.stepPlain char).2 = none) := by
  obtain ⟨mode, depth, reversed⟩ := state
  subst normal
  by_cases ends : char = ';' ∧ depth = 0
  · left
    obtain ⟨rfl, rfl⟩ := ends
    simp [stepPlain, takeStatement, enter, gathered, Mode.heldBack, pendingText]
  · right
    refine ⟨ends, ?_⟩
    simp only [stepPlain]
    split_ifs <;>
      simp_all [gathered, Mode.heldBack, pendingText, push, enter, Mode.inComment,
        Mode.inLineComment, Mode.inBlockComment]

/-- A semicolon in plain text outside parentheses ends the current statement. -/
theorem step_semicolon
    (state : State)
    (plain : state.mode.isPlain = true)
    (balanced : state.depth = 0) :
    state.step ';' = ({}, Statement.ofText? state.gathered) := by
  have fresh : state.mode.continues ';' = false := by
    cases state.mode <;> rfl
  rw [step_of_isPlain state ';' plain fresh]
  rcases stepPlain_cases state.settled ';' rfl with ⟨-, -, taken⟩ | ⟨noEnd, -⟩
  · rw [taken, gathered_settled]
  · exact absurd ⟨rfl, balanced⟩ noEnd

/-- Whether a character read outside comments neither ends a statement nor opens a comment. -/
def keeps (state : State) (char : Char) : Bool :=
  !(state.mode.isPlain && char == ';' && state.depth == 0) &&
    !(!state.mode.heldBack.isEmpty && state.mode.continues char)

/-- What a character can do to a scanner: the state behind it and the statement it completes. -/
inductive Effect (state : State) (char : Char) : State → Option Statement → Prop
  /-- The character becomes part of the current statement. -/
  | gathers
      (next : State)
      (outside : state.mode.inComment = false)
      (kept : state.keeps char = true)
      (stays : next.mode.inComment = false)
      (gathered_eq : next.gathered = state.gathered ++ [char]) :
      Effect state char next none
  /-- A semicolon in plain text outside parentheses ends the current statement. -/
  | ends
      (plain : state.mode.isPlain = true)
      (semicolon : char = ';')
      (balanced : state.depth = 0) :
      Effect state char {} (Statement.ofText? state.gathered)
  /-- The character and the one held back open a comment. -/
  | opens
      (mode : Mode)
      (inComment : mode.inComment = true)
      (heldBack : state.mode.heldBack ≠ [])
      (continues : state.mode.continues char = true) :
      Effect state char (state.enter mode) none
  /-- The character is dropped as a part of a comment. -/
  | skips
      (mode : Mode)
      (inside : state.mode.inComment = true)
      (stays : mode.inComment = true) :
      Effect state char (state.enter mode) none
  /-- The end of a line ends a line comment and is gathered. -/
  | endsLine
      (inside : state.mode = .lineComment)
      (newline : char = '\r' ∨ char = '\n') :
      Effect state char ((state.push char).enter .normal) none
  /-- A slash behind a star ends a block comment. -/
  | endsBlock
      (inside : state.mode = .blockCommentStar)
      (slash : char = '/') :
      Effect state char state.leaveBlockComment none

/-- Every character has one of these effects. -/
theorem step_effect (state : State) (char : Char) :
    Effect state char (state.step char).1 (state.step char).2 := by
  by_cases fresh : state.mode.isPlain = true ∧ state.mode.continues char = false
  · obtain ⟨plain, fresh⟩ := fresh
    have outside : state.mode.inComment = false := Mode.inComment_of_isPlain plain
    rw [step_of_isPlain state char plain fresh]
    rcases stepPlain_cases state.settled char rfl with
      ⟨semicolon, balanced, taken⟩ | ⟨noEnd, text, stays, none⟩
    · rw [taken, gathered_settled]
      exact .ends plain semicolon balanced
    · rw [none]
      rw [gathered_settled] at text
      have kept : state.keeps char = true := by
        simpa [keeps, plain, fresh] using Decidable.not_and_iff_not_or_not.mp noEnd
      exact .gathers _ outside kept stays text
  · obtain ⟨mode, depth, reversed⟩ := state
    cases mode with
    | normal => simp [Mode.isPlain, Mode.continues] at fresh
    | dash =>
      have second : char = '-' := by simpa [Mode.isPlain, Mode.continues] using fresh
      subst second
      exact .opens .lineComment rfl (by simp [Mode.heldBack]) rfl
    | slash =>
      have second : char = '*' := by simpa [Mode.isPlain, Mode.continues] using fresh
      subst second
      exact .opens .blockComment rfl (by simp [Mode.heldBack]) rfl
    | string =>
      simp only [step]
      split
      · exact .gathers _ rfl rfl rfl (by simp [gathered, Mode.heldBack, enter, push, pendingText])
      · exact .gathers _ rfl rfl rfl (by simp [gathered, Mode.heldBack, push, pendingText])
    | stringQuote =>
      have second : char = '\'' := by simpa [Mode.isPlain, Mode.continues] using fresh
      subst second
      exact .gathers _ rfl rfl rfl (by simp [step, gathered, Mode.heldBack, enter, push, pendingText])
    | identifier =>
      simp only [step]
      split
      · exact .gathers _ rfl rfl rfl (by simp [gathered, Mode.heldBack, enter, push, pendingText])
      · exact .gathers _ rfl rfl rfl (by simp [gathered, Mode.heldBack, push, pendingText])
    | identifierQuote =>
      have second : char = '"' := by simpa [Mode.isPlain, Mode.continues] using fresh
      subst second
      exact .gathers _ rfl rfl rfl (by simp [step, gathered, Mode.heldBack, enter, push, pendingText])
    | lineComment =>
      simp only [step]
      split
      · exact .endsLine rfl ‹_›
      · exact .skips .lineComment rfl rfl
    | blockComment =>
      simp only [step]
      split
      · exact .skips .blockCommentStar rfl rfl
      · exact .skips .blockComment rfl rfl
    | blockCommentStar =>
      simp only [step]
      split_ifs with slash star
      · exact .endsBlock rfl slash
      · exact .skips .blockCommentStar rfl rfl
      · exact .skips .blockComment rfl rfl

/-- All statements a scanner makes of the rest of its input, the unterminated one included. -/
def statementsIn (state : State) (text : Text) : List Statement :=
  (state.run text).2 ++ (state.run text).1.unterminated?.toList

theorem statementsIn_nil (state : State) :
    state.statementsIn [] = (Statement.ofText? state.gathered).toList := rfl

theorem statementsIn_cons (state : State) (char : Char) (rest : Text) :
    state.statementsIn (char :: rest) =
      (state.step char).2.toList ++ (state.step char).1.statementsIn rest := by
  simp [statementsIn, run_cons]

theorem statementsIn_append (state : State) (front back : Text) :
    state.statementsIn (front ++ back) =
      (state.run front).2 ++ (state.run front).1.statementsIn back := by
  simp [statementsIn, run_append]

/-- A delimiter that nothing continues makes no difference. -/
theorem statementsIn_settled
    (state : State)
    (text : Text)
    (plain : state.mode.isPlain = true)
    (fresh : text.head?.any state.mode.continues = false) :
    state.settled.statementsIn text = state.statementsIn text := by
  cases text with
  | nil => rw [statementsIn_nil, statementsIn_nil, gathered_settled]
  | cons char rest =>
    have same : state.settled.step char = state.step char := by
      rw [step_of_isPlain state char plain (by simpa using fresh)]
      rfl
    rw [statementsIn_cons, statementsIn_cons, same]

end State
end Scanner

namespace Script

theorem statements_eq_statementsIn (script : Text) :
    statements script = Scanner.State.statementsIn {} script :=
  statements_eq script

end Script
end SqlDump
