import SqlDump.Text.Basic

/-!
# Oversized strings

A string that is too long to stand in a statement is bound as a large object instead.
-/

namespace SqlDump

/-- The greatest lengths of a string that may stand in a statement. -/
structure LargeTextPolicy where
  /-- Limit on the bytes of the UTF-8 encoding. -/
  maxBytes : Nat := 4000
  /-- Limit on the characters. -/
  maxChars : Nat := 2000
  deriving DecidableEq, Repr, Inhabited

namespace LargeTextPolicy

/-- Whether a text exceeds one of the limits. -/
def isOversized (policy : LargeTextPolicy) (text : Text) : Bool :=
  policy.maxBytes < text.byteLength || policy.maxChars < text.length

theorem isOversized_iff (policy : LargeTextPolicy) (text : Text) :
    policy.isOversized text = true ↔
      policy.maxBytes < text.byteLength ∨ policy.maxChars < text.length := by
  simp [isOversized]

/-- Where a search for oversized strings stands. -/
inductive SearchState where
  /-- Outside quotes. -/
  | plain
  /-- Inside a quoted identifier. -/
  | identifier
  /-- Inside a string, with what was read of it so far, last character first. -/
  | string (reversed : Text)
  deriving DecidableEq, Repr, Inhabited

/-- Searches a text for an oversized string, measured as it is spelled between its quotes.  A
string that is never closed does not count. -/
def exceededFrom (policy : LargeTextPolicy) (state : SearchState) : Text → Bool
  | [] => false
  | [char] =>
    match state with
    | .string reversed => char = '\'' && policy.isOversized reversed.reverse
    | _ => false
  | char :: next :: rest =>
    match state with
    | .plain =>
      policy.exceededFrom
        (if char = '\'' then .string [] else if char = '"' then .identifier else .plain)
        (next :: rest)
    | .identifier =>
      policy.exceededFrom (if char = '"' then .plain else .identifier) (next :: rest)
    | .string reversed =>
      if char ≠ '\'' then policy.exceededFrom (.string (char :: reversed)) (next :: rest)
      else if next = '\'' then policy.exceededFrom (.string ('\'' :: '\'' :: reversed)) rest
      else policy.isOversized reversed.reverse || policy.exceededFrom .plain (next :: rest)

/-- Whether some string of a statement is oversized. -/
def isExceededIn (policy : LargeTextPolicy) (statement : Text) : Bool :=
  policy.exceededFrom .plain statement

end LargeTextPolicy
end SqlDump
