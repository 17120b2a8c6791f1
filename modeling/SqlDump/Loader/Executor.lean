import SqlDump.Error
import SqlDump.Insert.Prepared

/-!
# Executors

An executor carries out what a loader asks for: batches of statements and single prepared
statements.  It may answer anything at all, also depending on what it was asked before.
-/

namespace SqlDump

/-- What a loader asks an executor for. -/
inductive Call where
  /-- To execute statements together. -/
  | batch (statements : List Text)
  /-- To execute one statement with values for its placeholders. -/
  | prepared (insert : PreparedInsert)
  deriving DecidableEq, Repr

/-- What an executor answers. -/
inductive Answer where
  /-- Success, with the number of statements executed. -/
  | done (count : Nat)
  /-- Failure. -/
  | failed (reason : Text)
  deriving DecidableEq, Repr, Inhabited

/-- An executor, by its answer to a call that follows earlier calls. -/
abbrev Executor := List Call → Call → Answer

/-- Why a load stops. -/
inductive Failure where
  /-- A statement cannot be handled, or the source fails. -/
  | rejected (error : Error)
  /-- The executor failed on a prepared statement. -/
  | executor (reason : Text)
  /-- The executor failed on a batch. -/
  | batch (size : Nat) (reason : Text)
  deriving DecidableEq, Repr, Inhabited

namespace Failure

/-- The failure in words, followed by its causes. -/
def chain : Failure → List String
  | .rejected (.readFailure reason) =>
    [(Error.readFailure reason).message, String.ofList reason]
  | .rejected error => [error.message]
  | .executor reason => [String.ofList reason]
  | .batch size reason => [s!"batch of {size} statements failed", String.ofList reason]

end Failure
end SqlDump
