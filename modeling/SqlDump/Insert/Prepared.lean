import SqlDump.Insert.Layout
import SqlDump.Value.Binding

/-!
# Prepared INSERT statements

A statement with values that are too long to stand in it is sent with placeholders, and its
values beside it.
-/

namespace SqlDump

/-- A statement with a placeholder for each of its values. -/
structure PreparedInsert where
  /-- The statement. -/
  statement : Text
  /-- The values, in the order of their placeholders. -/
  bindings : List Binding
  deriving DecidableEq, Repr

namespace Insert

/-- The values for spelled values, or the error of the first that stands for none. -/
def bindAll (policy : LargeTextPolicy) : List Text → Except Error (List Binding)
  | [] => .ok []
  | token :: rest => do
    let binding ← bindValue policy token
    let bindings ← bindAll policy rest
    pure (binding :: bindings)

/-- Replaces the values of a statement by placeholders.  Text behind the value list is left
out. -/
def prepare (policy : LargeTextPolicy) (statement : Text) : Except Error PreparedInsert := do
  let clause ← locateValues statement 0
  let bindings ← bindAll policy (valueItems (clause.list.content statement))
  let placeholders := List.intercalate [',', ' '] (List.replicate bindings.length ['?'])
  pure {
    statement :=
      statement.takeBytes clause.keyword ++ Keyword.values ++ ' ' :: '(' :: (placeholders ++ [')'])
    bindings }

end Insert
end SqlDump
