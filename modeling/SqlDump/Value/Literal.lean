import SqlDump.Error
import SqlDump.Numeric.Decimal
import SqlDump.Sql.ItemList
import SqlDump.Sql.Keyword
import SqlDump.Sql.Quoted

/-!
# Literals

A value in a statement is classified by its spelling: the null value, a date, a timestamp, a
conversion call, a string, a number, or anything else.
-/

namespace SqlDump

/-- A value as it is spelled. -/
inductive Literal where
  /-- The null value. -/
  | null
  /-- A date, by the text between its quotes. -/
  | date (text : Text)
  /-- A timestamp, by the text between its quotes. -/
  | timestamp (text : Text)
  /-- A conversion of a text to a timestamp, with a format and perhaps a language. -/
  | toTimestamp (value format : Text) (language : Option Text)
  /-- A string. -/
  | string (text : Text)
  /-- A 64-bit integer. -/
  | integer (value : Int)
  /-- A number with a point. -/
  | double (value : Binary64)
  /-- Anything else. -/
  | other (text : Text)
  deriving DecidableEq, Repr, Inhabited

namespace Literal

/-- The text between quotes, where either quote may be missing. -/
def quotedBody (text : Text) : Text :=
  let text := text.trim
  let text := if text.head? = some '\'' then text.tail else text
  if text.getLast? = some '\'' then text.dropLast else text

/-- The text between the first opening and the last closing parenthesis behind it. -/
def callArguments? (call : Text) : Option Text :=
  match call.dropWhile (· ≠ '(') with
  | [] => none
  | _ :: behind =>
    match behind.reverse.dropWhile (· ≠ ')') with
    | [] => none
    | _ :: reversed => some reversed.reverse

/-- The literal of a conversion call: two or three string arguments. -/
def ofCall (call : Text) : Except Error Literal :=
  let malformed := Error.malformedCall call
  match callArguments? call with
  | none => .error malformed
  | some arguments =>
    match (valueItems arguments).map Quoted.string? with
    | [some value, some format] => .ok (.toTimestamp value format none)
    | [some value, some format, some language] => .ok (.toTimestamp value format (some language))
    | _ => .error malformed

/-- The literal of a text that is no keyword, call or string: a number if it spells one. -/
def ofNumber (text : Text) : Literal :=
  if text.contains '.' then
    match Decimal.ofText? text with
    | some decimal => .double decimal.toBinary64
    | none => .other text
  else
    match Integer.ofText? text with
    | some value => .integer value
    | none => .other text

/-- Classifies a value by its spelling. -/
def classify (token : Text) : Except Error Literal :=
  let text := token.trim
  if Text.sameLetters Keyword.null text then .ok .null
  else if Text.startsWith (Keyword.date ++ [' ', '\'']) text then
    .ok (.date (quotedBody (text.drop Keyword.date.length)))
  else if Text.startsWith (Keyword.timestamp ++ [' ', '\'']) text then
    .ok (.timestamp (quotedBody (text.drop Keyword.timestamp.length)))
  else if Text.startsWith (Keyword.toTimestamp ++ ['(']) text then ofCall text
  else
    match Quoted.string? text with
    | some body => .ok (.string body)
    | none => .ok (ofNumber text)

end Literal
end SqlDump
