import SqlDump.Json.Token

/-!
# JSON documents

The tokens of a document are put together one after another.  Arrays and objects that are not
closed yet form a stack, which is limited in height.
-/

namespace SqlDump
namespace Json

/-- An array or object that is not closed yet. -/
inductive Frame where
  /-- An array, its items in reverse. -/
  | array (reversed : List Json)
  /-- An object that waits for the value of a member, the members before it in reverse. -/
  | object (reversed : List (Text × Json)) (name : Text)
  deriving Repr, Inhabited

/-- Where a document stands between two tokens.  The frames around are given innermost first. -/
inductive Stage where
  /-- A value is due. -/
  | valueDue (frames : List Frame)
  /-- The first item or the end of an array is due. -/
  | firstItem (frames : List Frame)
  /-- A comma or the end of an array is due. -/
  | afterItem (reversed : List Json) (frames : List Frame)
  /-- The first name or the end of an object is due. -/
  | firstName (frames : List Frame)
  /-- A name is due. -/
  | nameDue (reversed : List (Text × Json)) (frames : List Frame)
  /-- The colon behind a name is due. -/
  | colonDue (reversed : List (Text × Json)) (name : Text) (frames : List Frame)
  /-- A comma or the end of an object is due. -/
  | afterMember (reversed : List (Text × Json)) (frames : List Frame)
  /-- The document is complete. -/
  | complete (value : Json)
  deriving Repr, Inhabited

namespace Stage

/-- The greatest number of arrays and objects around a value. -/
def maxDepth : Nat := 127

/-- Puts a complete value where it belongs. -/
def place (value : Json) : List Frame → Stage
  | [] => .complete value
  | .array reversed :: frames => .afterItem (value :: reversed) frames
  | .object reversed name :: frames => .afterMember ((name, value) :: reversed) frames

/-- Takes the first token of a value. -/
def open? (frames : List Frame) : Token → Option Stage
  | .scalar value => some (place value frames)
  | .string text => some (place (.string text) frames)
  | .openArray => if frames.length < maxDepth then some (.firstItem frames) else none
  | .openObject => if frames.length < maxDepth then some (.firstName frames) else none
  | _ => none

/-- Takes one token. -/
def step? : Stage → Token → Option Stage
  | .valueDue frames, token => open? frames token
  | .firstItem frames, .closeArray => some (place (.array []) frames)
  | .firstItem frames, token => open? (.array [] :: frames) token
  | .afterItem reversed frames, .comma => some (.valueDue (.array reversed :: frames))
  | .afterItem reversed frames, .closeArray => some (place (.array reversed.reverse) frames)
  | .firstName frames, .string text => some (.colonDue [] text frames)
  | .firstName frames, .closeObject => some (place (.object []) frames)
  | .nameDue reversed frames, .string text => some (.colonDue reversed text frames)
  | .colonDue reversed name frames, .colon => some (.valueDue (.object reversed name :: frames))
  | .afterMember reversed frames, .comma => some (.nameDue reversed frames)
  | .afterMember reversed frames, .closeObject =>
    some (place (.object reversed.reverse) frames)
  | _, _ => none

end Stage

/-- The value of a document, if it is well formed. -/
def ofText? (document : Text) : Option Json := do
  let tokens ← Token.sequence? document
  match ← tokens.foldlM Stage.step? (.valueDue []) with
  | .complete value => pure value
  | _ => none

end Json
end SqlDump
