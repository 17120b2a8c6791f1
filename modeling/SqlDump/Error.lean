import SqlDump.Text.Basic

/-!
# Errors

What can go wrong between the bytes of a dump and the values of a row.
-/

namespace SqlDump

/-- A cause of failure. -/
inductive Error where
  /-- The source of bytes failed. -/
  | readFailure (reason : Text)
  /-- The bytes at a position of the input are no UTF-8. -/
  | illFormedBytes (offset : Nat)
  /-- An INSERT names no columns, so that the position of one is unknown. -/
  | missingColumnList (column : Text)
  /-- A statement has no VALUES keyword. -/
  | missingValuesClause (statement : Text)
  /-- No parenthesis follows the VALUES keyword. -/
  | missingValuesList (statement : Text)
  /-- The parenthesis at a position is never closed. -/
  | unbalancedParentheses (position : Nat)
  /-- A row has another number of values than columns. -/
  | countMismatch (columns values : Nat)
  /-- A text is no date with a time of day. -/
  | unparseableTimestamp (text : Text)
  /-- A text is no date. -/
  | unparseableDate (text : Text)
  /-- A conversion call is not of the expected form. -/
  | malformedCall (call : Text)
  deriving DecidableEq, Repr, Inhabited

namespace Error

/-- Whether a landmark of an INSERT statement could not be found. -/
def isStructural : Error → Bool
  | .missingColumnList _ | .missingValuesClause _ | .missingValuesList _
  | .unbalancedParentheses _ | .countMismatch _ _ => true
  | _ => false

/-- Whether a single value could not be interpreted. -/
def isValueLevel : Error → Bool
  | .unparseableTimestamp _ | .unparseableDate _ | .malformedCall _ => true
  | _ => false

/-- The error in words. -/
def message : Error → String
  | .readFailure reason => "IO error: " ++ String.ofList reason
  | .illFormedBytes offset => s!"Invalid UTF-8 in input at byte offset {offset}"
  | .missingColumnList column =>
    "Statement has no column list, cannot remove column '" ++ String.ofList column ++
      "' positionally"
  | .missingValuesClause statement => "VALUES clause not found: " ++ String.ofList statement
  | .missingValuesList statement => "No '(' after VALUES: " ++ String.ofList statement
  | .unbalancedParentheses position =>
    s!"Unbalanced parentheses, no matching ')' for '(' at byte {position}"
  | .countMismatch columns values =>
    s!"Column count and value count differ ({columns} vs {values})"
  | .unparseableTimestamp text => "Unparseable timestamp: " ++ String.ofList text
  | .unparseableDate text => "Unparseable date: " ++ String.ofList text
  | .malformedCall call => "Malformed function call: " ++ String.ofList call

end Error
end SqlDump
