import SqlDump.Calendar.Localized
import SqlDump.Calendar.Printer
import SqlDump.Value.Literal
import SqlDump.Value.Policy

/-!
# Bindings

A binding is the value that a literal stands for, ready to be handed to a database: as one of
its storage classes, in which dates and timestamps are texts.
-/

namespace SqlDump

/-- A value to be bound to a placeholder. -/
inductive Binding where
  /-- The null value. -/
  | null
  /-- A timestamp. -/
  | timestamp (value : Timestamp)
  /-- A date. -/
  | date (value : Date)
  /-- A text that may stand in a statement. -/
  | text (value : Text)
  /-- A text too long to stand in a statement. -/
  | largeText (value : Text)
  /-- A 64-bit integer. -/
  | long (value : Int)
  /-- A double. -/
  | double (value : Binary64)
  deriving DecidableEq, Repr

/-- A value of one of the storage classes of a database. -/
inductive Stored where
  /-- The null value. -/
  | null
  /-- A 64-bit integer. -/
  | integer (value : Int)
  /-- A double. -/
  | real (value : Binary64)
  /-- A text. -/
  | text (value : Text)
  deriving DecidableEq, Repr, Inhabited

namespace Binding

/-- The value a database stores for a binding. -/
def toStored : Binding → Stored
  | .null => .null
  | .timestamp value => .text value.toText
  | .date value => .text value.toText
  | .text value | .largeText value => .text value
  | .long value => .integer value
  | .double value => .real value

end Binding

namespace Literal

/-- The word in a format that stands for the name of a month. -/
def monthNameFormat : Text := ['M', 'O', 'N']

/-- The word in the name of a language that writes months with a sign. -/
def chineseLanguage : Text := ['C', 'H', 'I', 'N', 'E', 'S', 'E']

/-- The timestamp of a timestamp literal: a date with a time, a date alone, or a localized
text. -/
def timestampOf (text : Text) : Except Error Timestamp :=
  match Timestamp.ofText? text with
  | some found => .ok found
  | none =>
    match Date.ofText? text with
    | some day => .ok ⟨day, .midnight⟩
    | none => Localized.parse text

/-- Whether a conversion reads localized text: its format names months, and the value or the
language shows that they are written with a sign. -/
def isLocalizedConversion (value format : Text) (language : Option Text) : Bool :=
  format.includesInUpperCase monthNameFormat &&
    (value.includes Localized.monthSign ||
      language.any (Text.includesInUpperCase · chineseLanguage))

/-- The timestamp of a conversion call. -/
def convert (value format : Text) (language : Option Text) : Except Error Timestamp :=
  if isLocalizedConversion value format language then Localized.parse value
  else
    match Timestamp.ofText? value with
    | some found => .ok found
    | none => .error (.unparseableTimestamp value)

/-- The binding of a date literal: a text with a time of day makes it a timestamp. -/
def dateBinding (text : Text) : Except Error Binding :=
  match Timestamp.ofText? text with
  | some found => .ok (.timestamp found)
  | none =>
    match Date.ofText? text with
    | some day => .ok (.date day)
    | none => .error (.unparseableDate text)

/-- The value a literal stands for. -/
def bind (policy : LargeTextPolicy) : Literal → Except Error Binding
  | .null => .ok .null
  | .date text => dateBinding text
  | .timestamp text => (timestampOf text).map .timestamp
  | .toTimestamp value format language => (convert value format language).map .timestamp
  | .string text => .ok (if policy.isOversized text then .largeText text else .text text)
  | .integer value => .ok (.long value)
  | .double value => .ok (.double value)
  | .other text => .ok (.text text)

end Literal

/-- The value a spelled value stands for. -/
def bindValue (policy : LargeTextPolicy) (token : Text) : Except Error Binding :=
  (Literal.classify token).bind (Literal.bind policy)

end SqlDump
