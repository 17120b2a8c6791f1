import SqlDump.Numeric.Binary64
import SqlDump.Text.Basic

/-!
# JSON values

Objects keep their members in the order of the document, repeated names included.  Of members
with the same name the last one counts.
-/

namespace SqlDump

/-- A JSON value. -/
inductive Json where
  /-- The null value. -/
  | null
  /-- A truth value. -/
  | bool (value : Bool)
  /-- A number written without point and exponent that fits 64 bits. -/
  | integer (value : Int)
  /-- Any other number. -/
  | double (value : Binary64)
  /-- A string. -/
  | string (text : Text)
  /-- An array. -/
  | array (items : List Json)
  /-- An object, as its members in order. -/
  | object (members : List (Text × Json))
  deriving Repr, Inhabited

namespace Json

/-- The value of the last member with a name. -/
def member? (name : Text) (members : List (Text × Json)) : Option Json :=
  members.reverse.lookup name

@[simp] theorem member?_nil (name : Text) : member? name [] = none := rfl

/-- Later members hide earlier ones of the same name. -/
theorem member?_append (name : Text) (front back : List (Text × Json)) :
    member? name (front ++ back) = (member? name back).or (member? name front) := by
  rw [member?, List.reverse_append, List.lookup_append]
  rfl

theorem member?_cons (name : Text) (member : Text × Json) (members : List (Text × Json)) :
    member? name (member :: members) =
      (member? name members).or (if name = member.1 then some member.2 else none) := by
  obtain ⟨other, value⟩ := member
  have single : member? name [(other, value)] = if name = other then some value else none := by
    by_cases same : name = other
    · simp [member?, same]
    · simp [member?, List.lookup_cons, same, beq_false_of_ne same]
  rw [← List.singleton_append, member?_append, single]

end Json
end SqlDump
