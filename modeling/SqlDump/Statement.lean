import SqlDump.Sql.Keyword
import SqlDump.Text.Trim

/-!
# Statements

A statement is the text of one SQL command: free of comments, without the semicolon that ended
it and without white space at its ends.
-/

namespace SqlDump

/-- One SQL command. -/
structure Statement where
  /-- The text of the command. -/
  text : Text
  deriving DecidableEq, Repr, Inhabited

namespace Statement

/-- The statement a piece of comment-free text stands for; a blank piece stands for none. -/
def ofText? (text : Text) : Option Statement :=
  match text.trim with
  | [] => none
  | char :: rest => some ⟨char :: rest⟩

@[simp] theorem ofText?_nil : ofText? [] = none := rfl

theorem ofText?_eq_some_iff (text : Text) (statement : Statement) :
    ofText? text = some statement ↔ text.trim = statement.text ∧ statement.text ≠ [] := by
  obtain ⟨body⟩ := statement
  unfold ofText?
  cases trimmed : text.trim with
  | nil =>
    simp only [reduceCtorEq, false_iff, not_and]
    intro empty nonempty
    exact nonempty empty.symm
  | cons char rest =>
    simp only [Option.some.injEq, Statement.mk.injEq, ne_eq]
    constructor
    · intro equal
      subst equal
      simp
    · exact fun both => both.1

/-- The text of a statement stands for that statement. -/
theorem ofText?_text (text : Text) (statement : Statement) (found : ofText? text = some statement) :
    ofText? statement.text = some statement := by
  obtain ⟨trimmed, nonempty⟩ := (ofText?_eq_some_iff text statement).mp found
  rw [ofText?_eq_some_iff, ← trimmed, Text.trim_trim]
  exact ⟨rfl, by rw [trimmed]; exact nonempty⟩

/-- Whether the statement starts with the word INSERT, in any case. -/
def isInsert (statement : Statement) : Bool :=
  Text.startsWith Keyword.insert statement.text

end Statement
end SqlDump
