import SqlDump.Error
import SqlDump.Sql.Region

/-!
# Matching parentheses

Parentheses are matched outside strings and quoted identifiers.
-/

namespace SqlDump
namespace Parenthesis

/-- Byte position of the parenthesis that closes the enclosing one, in a text that stands at byte
position `position` in a region, with `depth` further parentheses open. -/
def closingFrom? (region : Region) (depth : Nat) (position : Nat) : Text → Option Nat
  | [] => none
  | char :: rest =>
    if region = .plain ∧ char = ')' then
      match depth with
      | 0 => some position
      | depth + 1 => closingFrom? region depth (position + char.utf8Size) rest
    else if region = .plain ∧ char = '(' then
      closingFrom? region (depth + 1) (position + char.utf8Size) rest
    else closingFrom? (region.next char) depth (position + char.utf8Size) rest

/-- Byte position of the parenthesis that closes the one at byte position `opening`. -/
def closing (text : Text) (opening : Nat) : Except Error Nat :=
  let found :=
    match text.suffixAt? opening with
    | some ('(' :: rest) => closingFrom? .plain 0 (opening + 1) rest
    | _ => none
  match found with
  | some position => .ok position
  | none => .error (.unbalancedParentheses opening)

end Parenthesis
end SqlDump
