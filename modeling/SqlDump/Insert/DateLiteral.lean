import SqlDump.Sql.Keyword
import SqlDump.Unicode.DecimalDigit
import SqlDump.Unicode.WordCharacter

/-!
# Date literals with a time of day

A literal `DATE 'year-month-day hour:minute:second'` carries a time of day and is therefore a
timestamp: the word DATE in front of it is replaced by TIMESTAMP.
-/

namespace SqlDump
namespace DateLiteral

/-- The text between the word DATE and an optional fraction; a zero stands for any digit. -/
def template : Text :=
  [' ', '\'', '0', '0', '0', '0', '-', '0', '0', '-', '0', '0', ' ', '0', '0', ':', '0', '0',
    ':', '0', '0']

/-- What follows a text that agrees with a template. -/
def afterTemplate? : Text → Text → Option Text
  | [], text => some text
  | _ :: _, [] => none
  | expected :: template, char :: rest =>
    if (expected = '0' ∧ Unicode.isDecimalDigit char) ∨ (expected ≠ '0' ∧ char = expected) then
      afterTemplate? template rest
    else none

/-- Whether a text starts with the end of a time: perhaps a fraction, then the closing quote. -/
def endsTime : Text → Bool
  | '\'' :: _ => true
  | '.' :: digit :: rest =>
    Unicode.isDecimalDigit digit && (rest.dropWhile Unicode.isDecimalDigit).head? == some '\''
  | _ => false

/-- Whether the text behind the word DATE makes it a literal with a time of day. -/
def hasTime (text : Text) : Bool :=
  match afterTemplate? template text with
  | some rest => endsTime rest
  | none => false

/-- Replaces the word in front of every date with a time of day, in a text that follows the
character `previous`.  The word must not continue another word. -/
def normalizeAfter (previous : Option Char) : Text → Text
  | first :: second :: third :: fourth :: rest =>
    if !previous.any Unicode.isWordCharacter &&
        Text.startsWith Keyword.date [first, second, third, fourth] && hasTime rest then
      Keyword.timestamp ++ normalizeAfter (some fourth) rest
    else first :: normalizeAfter (some first) (second :: third :: fourth :: rest)
  | short => short

/-- Replaces the word DATE by TIMESTAMP in front of every date with a time of day. -/
def normalize (text : Text) : Text :=
  normalizeAfter none text

end DateLiteral
end SqlDump
