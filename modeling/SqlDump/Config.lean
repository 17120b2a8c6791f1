import SqlDump.Json.Document
import SqlDump.Json.Printer
import SqlDump.Text.Trim
import SqlDump.Text.Utf8
import SqlDump.Value.Policy

/-!
# Configuration of a load

The settings of a load are read from a JSON object.  Members that are absent keep their default,
unknown ones are ignored, and of members with the same name only the last is looked at.
-/

namespace SqlDump

/-- The settings of a load. -/
structure Config where
  /-- Number of statements executed together. -/
  batchSize : Nat := 500
  /-- Whether the column `keyName` and its values are removed from every INSERT. -/
  ignoreKey : Bool := false
  /-- The name of the column to remove. -/
  keyName : Text := ['W', 'C', 'S', 'I', 'D']
  /-- Whether a failure is counted instead of ending the load. -/
  continueOnError : Bool := false
  /-- Number of bytes read at a time. -/
  chunkSize : Nat := 32768
  /-- The limits on strings in statements. -/
  largeText : LargeTextPolicy := {}
  deriving DecidableEq, Repr, Inhabited

/-- Why a configuration cannot be used. -/
inductive ConfigError where
  /-- The document is no UTF-8. -/
  | unreadable
  /-- The document is no JSON. -/
  | malformed
  /-- A member has a value of another type than expected. -/
  | mistyped
  /-- Something else was found than expected. -/
  | invalid (expected : String) (got : Text)
  deriving DecidableEq, Repr, Inhabited

namespace ConfigError

/-- An invalid configuration in words. -/
def invalidMessage (expected : String) (got : Text) : String :=
  "Invalid configuration: expected " ++ expected ++ ", got " ++ String.ofList got

end ConfigError

namespace Config

/-- The size a value gives: an integer of 64 bits without sign. -/
def size? : Json → Option Nat
  | .integer value => if 0 ≤ value ∧ value ≤ 18446744073709551615 then some value.toNat else none
  | _ => none

/-- The truth value a value gives. -/
def bool? : Json → Option Bool
  | .bool value => some value
  | _ => none

/-- The text a value gives. -/
def text? : Json → Option Text
  | .string text => some text
  | _ => none

/-- The setting that the last member with a name gives, or the default if there is none. -/
def setting {α : Type} (read? : Json → Option α) (default : α) (name : String)
    (members : List (Text × Json)) : Except ConfigError α :=
  match Json.member? name.toList members with
  | none => .ok default
  | some value =>
    match read? value with
    | some result => .ok result
    | none => .error .mistyped

/-- The limits on strings that an object, or an array of at most two sizes, gives. -/
def policy? : Json → Option LargeTextPolicy
  | .object members =>
    let standard : LargeTextPolicy := {}
    match setting size? standard.maxBytes "max_inline_bytes" members,
      setting size? standard.maxChars "max_inline_chars" members with
    | .ok maxBytes, .ok maxChars => some { maxBytes, maxChars }
    | _, _ => none
  | .array [] => some {}
  | .array [bytes] => (size? bytes).map fun maxBytes => { maxBytes }
  | .array [bytes, chars] =>
    (size? bytes).bind fun maxBytes => (size? chars).map fun maxChars => { maxBytes, maxChars }
  | _ => none

/-- The configuration that the members of an object give. -/
def ofMembers (members : List (Text × Json)) : Except ConfigError Config := do
  let standard : Config := {}
  let batchSize ← setting size? standard.batchSize "batch_size" members
  let ignoreKey ← setting bool? standard.ignoreKey "ignore_pk" members
  let keyName ← setting text? standard.keyName "pk_name" members
  let continueOnError ← setting bool? standard.continueOnError "continue_on_error" members
  let chunkSize ← setting size? standard.chunkSize "chunk_size" members
  let largeText ← setting policy? standard.largeText "large_literal" members
  pure { batchSize, ignoreKey, keyName, continueOnError, chunkSize, largeText }

/-- Checks that a configuration can be used. -/
def validate (config : Config) : Except ConfigError Config :=
  if config.batchSize = 0 then .error (.invalid "batch_size > 0" ['0'])
  else if config.chunkSize = 0 then .error (.invalid "chunk_size > 0" ['0'])
  else if config.ignoreKey ∧ config.keyName.isBlank then
    .error (.invalid "non-empty pk_name when ignore_pk is set"
      ('\'' :: (config.keyName ++ ['\''])))
  else .ok config

/-- The configuration a JSON value gives. -/
def ofJson : Json → Except ConfigError Config
  | .object members => (ofMembers members).bind validate
  | other => .error (.invalid "object" other.toText)

/-- The configuration a document gives. -/
def ofDocument (document : Text) : Except ConfigError Config :=
  match Json.ofText? document with
  | some json => ofJson json
  | none => .error .malformed

/-- The configuration a file with the given bytes gives. -/
def ofBytes (bytes : List UInt8) : Except ConfigError Config :=
  match Utf8.decode? bytes with
  | some document => ofDocument document
  | none => .error .unreadable

end Config
end SqlDump
