import SqlDump.Insert.DateLiteral
import SqlDump.Insert.Layout
import SqlDump.Sql.ItemList
import SqlDump.Sql.Quoted

/-!
# Removing a column

A column is removed from an INSERT statement together with the value at the same place of its
value list.  Everything else keeps its order and its text.
-/

namespace SqlDump
namespace Insert

/-- The place of the first identifier with a name, letter case aside. -/
def columnIndex? (columns : List Text) (name : Text) : Option Nat :=
  columns.findIdx? fun column => Text.lowerCase (Quoted.identifierName column) == name.lowerCase

/-- A list of items in parentheses. -/
def parenthesized (items : List Text) : Text :=
  '(' :: (List.intercalate [',', ' '] items ++ [')'])

/-- The statement with the given parts, separated by single spaces. -/
def assemble (head : Text) (columns values : List Text) (trailing : Text) : Text :=
  head ++ ' ' :: parenthesized columns ++ ' ' :: Keyword.values ++ ' ' :: parenthesized values ++
    (if trailing.isEmpty then [] else ' ' :: trailing)

/-- Removes the column at a place of the column list, and its value, from a statement. -/
def removeAt (statement : Text) (columnList : ListSpan) (columns : List Text) (index : Nat) :
    Except Error Text := do
  let clause ← locateValues statement columnList.closing
  let values := valueItems (clause.list.content statement)
  if values.length ≠ columns.length then
    .error (.countMismatch columns.length values.length)
  else
    pure (assemble (statement.takeBytes columnList.opening).trim (columns.eraseIdx index)
      (values.eraseIdx index) (statement.dropBytes (clause.list.closing + 1)).trim)

/-- Removes a column and its value from a statement and makes dates with a time of day
timestamps.  A statement that is no INSERT INTO is only trimmed, and one without the column keeps
its lists. -/
def removeColumn (statement column : Text) : Except Error Text := do
  let statement := statement.trim
  match ← locateColumns statement column with
  | none => pure statement
  | some columnList =>
    let columns := identifierItems (columnList.content statement)
    match columnIndex? columns column with
    | none => pure (DateLiteral.normalize statement)
    | some index => do
      let shortened ← removeAt statement columnList columns index
      pure (DateLiteral.normalize shortened)

end Insert
end SqlDump
