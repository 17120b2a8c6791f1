import SqlDump.Json.Number

/-!
# Tokens of JSON

A document is a sequence of punctuation, words, numbers and strings with blanks between them.
It is taken character by character; a word or a number extends as far as its characters do.
-/

namespace SqlDump
namespace Json

/-- The smallest units of a document. -/
inductive Token where
  /-- Opens an array. -/
  | openArray
  /-- Closes an array. -/
  | closeArray
  /-- Opens an object. -/
  | openObject
  /-- Closes an object. -/
  | closeObject
  /-- Separates items or members. -/
  | comma
  /-- Separates the name of a member from its value. -/
  | colon
  /-- A string. -/
  | string (text : Text)
  /-- A number or one of the words for null and the truth values. -/
  | scalar (value : Json)
  deriving Repr, Inhabited

/-- How far an escape sequence of a string has come. -/
inductive Escape where
  /-- No escape sequence is open. -/
  | none
  /-- A backslash was read. -/
  | backslash
  /-- Some of four hexadecimal digits were read; `first` is the unit of a pair they complete. -/
  | hex (count value : Nat) (first : Option Nat)
  /-- The first unit of a pair was read. -/
  | high (unit : Nat)
  /-- The first unit of a pair and a backslash were read. -/
  | highBackslash (unit : Nat)
  deriving DecidableEq, Repr

namespace Escape

/-- The character written by a backslash and a letter. -/
def letter? : Char → Option Char
  | '"' => some '"'
  | '\\' => some '\\'
  | '/' => some '/'
  | 'b' => some '\x08'
  | 'f' => some '\x0c'
  | 'n' => some '\n'
  | 'r' => some '\r'
  | 't' => some '\t'
  | _ => Option.none

/-- The value of a hexadecimal digit. -/
def hexDigit? (char : Char) : Option Nat :=
  if char.isDigit then some (char.toNat - '0'.toNat)
  else if 'a' ≤ char ∧ char ≤ 'f' then some (char.toNat - 'a'.toNat + 10)
  else if 'A' ≤ char ∧ char ≤ 'F' then some (char.toNat - 'A'.toNat + 10)
  else Option.none

/-- Whether a unit is the first one of a pair. -/
def isHigh (unit : Nat) : Bool := 0xD800 ≤ unit && unit ≤ 0xDBFF

/-- Whether a unit is the second one of a pair. -/
def isLow (unit : Nat) : Bool := 0xDC00 ≤ unit && unit ≤ 0xDFFF

/-- What a complete unit amounts to: the second unit of an open pair completes a character, a
first unit opens a pair, and any other unit is a character by itself. -/
def complete? (unit : Nat) : (first : Option Nat) → Option (Escape × Option Char)
  | some first =>
    if isLow unit then
      some (.none, some (Char.ofNat (0x10000 + (first - 0xD800) * 0x400 + (unit - 0xDC00))))
    else Option.none
  | Option.none =>
    if isHigh unit then some (.high unit, Option.none)
    else if isLow unit then Option.none
    else some (.none, some (Char.ofNat unit))

/-- Takes a character inside a string that does not end it; some characters complete a character
of the string. -/
def step? (escape : Escape) (char : Char) : Option (Escape × Option Char) :=
  match escape with
  | .none =>
    if char = '\\' then some (.backslash, Option.none)
    else if char.toNat < 0x20 then Option.none
    else some (.none, some char)
  | .backslash =>
    if char = 'u' then some (.hex 0 0 Option.none, Option.none)
    else (letter? char).map fun written => (.none, some written)
  | .hex count value first =>
    (hexDigit? char).bind fun digit =>
      let value := 16 * value + digit
      if count = 3 then complete? value first else some (.hex (count + 1) value first, Option.none)
  | .high unit => if char = '\\' then some (.highBackslash unit, Option.none) else Option.none
  | .highBackslash unit =>
    if char = 'u' then some (.hex 0 0 (some unit), Option.none) else Option.none

end Escape

namespace Token

/-- What is being read. -/
inductive Reading where
  /-- Nothing that extends further. -/
  | nothing
  /-- A word, last letter first. -/
  | word (reversed : Text)
  /-- A number, last character first. -/
  | number (reversed : Text)
  /-- A string, last character first. -/
  | string (reversed : Text) (escape : Escape)
  deriving DecidableEq, Repr

/-- Whether a character may stand between tokens. -/
def isBlank (char : Char) : Bool :=
  char == ' ' || char == '\t' || char == '\n' || char == '\r'

/-- Whether a character may belong to a number. -/
def isNumeric (char : Char) : Bool :=
  char.isDigit || char == '-' || char == '+' || char == '.' || char == 'e' || char == 'E'

/-- The value a word stands for. -/
def ofWord? (word : Text) : Option Token :=
  if word = ['n', 'u', 'l', 'l'] then some (.scalar .null)
  else if word = ['t', 'r', 'u', 'e'] then some (.scalar (.bool true))
  else if word = ['f', 'a', 'l', 's', 'e'] then some (.scalar (.bool false))
  else none

/-- The token of a single punctuation character. -/
def ofPunctuation? : Char → Option Token
  | '[' => some .openArray
  | ']' => some .closeArray
  | '\x7b' => some .openObject
  | '\x7d' => some .closeObject
  | ',' => some .comma
  | ':' => some .colon
  | _ => none

/-- The tokens that end with what is being read, if it may end here. -/
def finish? : Reading → Option (List Token)
  | .nothing => some []
  | .word reversed => (ofWord? reversed.reverse).map ([·])
  | .number reversed => (numberOfText? reversed.reverse).map fun value => [.scalar value]
  | .string _ _ => none

/-- Takes a character that starts something new. -/
def start? (char : Char) : Option (Reading × List Token) :=
  if isBlank char then some (.nothing, [])
  else if char = '"' then some (.string [] .none, [])
  else if char.isLower then some (.word [char], [])
  else if char.isDigit ∨ char = '-' then some (.number [char], [])
  else (ofPunctuation? char).map fun token => (.nothing, [token])

/-- Takes a character; some characters complete tokens. -/
def step? (reading : Reading) (char : Char) : Option (Reading × List Token) :=
  match reading with
  | .string reversed escape =>
    if char = '"' ∧ escape = .none then some (.nothing, [.string reversed.reverse])
    else
      (escape.step? char).map fun (escape, completed) =>
        (.string (completed.toList ++ reversed) escape, [])
  | .word reversed =>
    if char.isLower then some (.word (char :: reversed), []) else finishAndStart reading char
  | .number reversed =>
    if isNumeric char then some (.number (char :: reversed), []) else finishAndStart reading char
  | .nothing => start? char
where
  /-- Ends what is being read and starts something new. -/
  finishAndStart (reading : Reading) (char : Char) : Option (Reading × List Token) := do
    let before ← finish? reading
    let (next, tokens) ← start? char
    pure (next, before ++ tokens)

/-- The tokens of a text that follows what is being read. -/
def sequenceFrom? (reading : Reading) : Text → Option (List Token)
  | [] => finish? reading
  | char :: rest => do
    let (next, tokens) ← step? reading char
    let later ← sequenceFrom? next rest
    pure (tokens ++ later)

/-- The tokens of a document. -/
def sequence? (document : Text) : Option (List Token) :=
  sequenceFrom? .nothing document

end Token
end Json
end SqlDump
