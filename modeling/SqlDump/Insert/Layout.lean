import SqlDump.Sql.Keyword
import SqlDump.Sql.Parenthesis
import SqlDump.Text.Trim
import SqlDump.Unicode.WordCharacter

/-!
# The landmarks of an INSERT statement

A statement `INSERT INTO table (columns) VALUES (values)` is understood by the byte positions of
its landmarks: the parentheses around the column list, the keyword VALUES and the parentheses
around the value list.
-/

namespace SqlDump

/-- The byte positions of the two parentheses around a list. -/
structure ListSpan where
  /-- Position of the opening parenthesis. -/
  opening : Nat
  /-- Position of the closing parenthesis. -/
  closing : Nat
  deriving DecidableEq, Repr, Inhabited

namespace ListSpan

/-- The text between the parentheses. -/
def content (span : ListSpan) (statement : Text) : Text :=
  statement.slice (span.opening + 1) span.closing

end ListSpan

/-- The byte positions of a VALUES clause. -/
structure ValuesClause where
  /-- Position of the keyword. -/
  keyword : Nat
  /-- The parentheses around the values. -/
  list : ListSpan
  deriving DecidableEq, Repr, Inhabited

namespace Insert

/-- Whether a character is an ASCII capital in any case.  The long s is a form of S. -/
def isFormOf (capital : Char) (char : Char) : Bool :=
  Text.sameLetter capital char || (capital == 'S' && char == 'ſ')

/-- What follows a word of ASCII capitals at the start of a text. -/
def afterWord? : Text → Text → Option Text
  | [], text => some text
  | _ :: _, [] => none
  | capital :: word, char :: rest => if isFormOf capital char then afterWord? word rest else none

/-- What follows the words INSERT INTO at the very start of a statement. -/
def afterHeader? (statement : Text) : Option Text := do
  let behindInsert ← afterWord? Keyword.insert statement
  let behindSpace := behindInsert.trimStart
  if behindSpace.length = behindInsert.length then none
  else
    let target ← afterWord? Keyword.into behindSpace
    if (target.head?).any Unicode.isWordCharacter then none else some target

/-- Byte position of the first parenthesis that opens outside double quotes, in a text that
stands at byte position `position`. -/
def openingFrom? (inIdentifier : Bool) (position : Nat) : Text → Option Nat
  | [] => none
  | char :: rest =>
    if char = '(' ∧ ¬ inIdentifier then some position
    else
      openingFrom? (if char = '"' then !inIdentifier else inIdentifier)
        (position + char.utf8Size) rest

/-- Locates the column list of a statement that starts with INSERT INTO; other statements have
none.  The name of the column in question appears in the error only. -/
def locateColumns (statement column : Text) : Except Error (Option ListSpan) :=
  match afterHeader? statement with
  | none => .ok none
  | some target =>
    match openingFrom? false (statement.byteLength - target.byteLength) target with
    | none => .error (.missingColumnList column)
    | some opening => do
      let closing ← Parenthesis.closing statement opening
      pure (some ⟨opening, closing⟩)

/-- Locates the value list: the first parenthesis behind the keyword VALUES, which is searched
from byte position `start` on. -/
def locateValues (statement : Text) (start : Nat) : Except Error ValuesClause :=
  match Keyword.locate? Keyword.values statement start with
  | none => .error (.missingValuesClause statement)
  | some keyword =>
    match (statement.dropBytes keyword).position? (· == '(') with
    | none => .error (.missingValuesList statement)
    | some distance => do
      let closing ← Parenthesis.closing statement (keyword + distance)
      pure ⟨keyword, ⟨keyword + distance, closing⟩⟩

end Insert
end SqlDump
