import SqlDump.Sql.Region
import SqlDump.Text.Search
import SqlDump.Text.Trim

/-!
# Comma-separated lists

A list of values or of identifiers is cut at its commas, those inside quotes or parentheses
excepted.  The two kinds of lists differ in what hides a comma, so each is a `Nesting`: a way of
tracking, character by character, whether a comma separates items.
-/

namespace SqlDump

/-- A way of telling the commas that separate items from those inside an item. -/
structure Nesting (σ : Type) where
  /-- The state at the start of a list. -/
  start : σ
  /-- The state after one more character. -/
  next : σ → Char → σ
  /-- Whether a comma met in a state separates two items. -/
  separates : σ → Bool

namespace Nesting

variable {σ : Type}

/-- Puts a character in front of the first piece. -/
def extendFirst (char : Char) : List Text → List Text
  | [] => [[char]]
  | piece :: pieces => (char :: piece) :: pieces

/-- The text cut at its separating commas, from a given state on: one piece more than commas. -/
def piecesFrom (nesting : Nesting σ) (state : σ) : Text → List Text
  | [] => [[]]
  | char :: rest =>
    if char = ',' ∧ nesting.separates state then
      [] :: nesting.piecesFrom (nesting.next state char) rest
    else extendFirst char (nesting.piecesFrom (nesting.next state char) rest)

theorem piecesFrom_ne_nil (nesting : Nesting σ) (state : σ) (text : Text) :
    nesting.piecesFrom state text ≠ [] := by
  cases text with
  | nil => simp [piecesFrom]
  | cons char rest =>
    unfold piecesFrom
    split
    · simp
    · cases nesting.piecesFrom (nesting.next state char) rest <;> simp [extendFirst]

theorem intercalate_extendFirst (separator : Text) (char : Char) (pieces : List Text)
    (nonempty : pieces ≠ []) :
    List.intercalate separator (extendFirst char pieces) =
      char :: List.intercalate separator pieces := by
  cases pieces with
  | nil => exact absurd rfl nonempty
  | cons piece rest =>
    cases rest with
    | nil => rfl
    | cons next later => rfl

/-- Cutting loses nothing but the commas it cuts at. -/
theorem intercalate_piecesFrom (nesting : Nesting σ) (state : σ) (text : Text) :
    List.intercalate [','] (nesting.piecesFrom state text) = text := by
  induction text generalizing state with
  | nil => rfl
  | cons char rest inductionHypothesis =>
    have nonempty := nesting.piecesFrom_ne_nil (nesting.next state char) rest
    unfold piecesFrom
    split
    · rename_i separating
      rw [List.intercalate_cons_of_ne_nil nonempty, inductionHypothesis, separating.1]
      rfl
    · rw [intercalate_extendFirst _ _ _ nonempty, inductionHypothesis]

/-- A list of pieces without an empty last one, which a list without items or a final comma
leaves. -/
def dropEmptyLast (pieces : List Text) : List Text :=
  if pieces.getLast? = some [] then pieces.dropLast else pieces

/-- The items of a list, each without the white space around it. -/
def items (nesting : Nesting σ) (text : Text) : List Text :=
  (dropEmptyLast (nesting.piecesFrom nesting.start text)).map Text.trim

end Nesting

/-- How a list of values nests: strings hide everything, and parentheses outside strings hide
commas.  A double quote means nothing here, because a list of values holds no identifiers. -/
structure ValueNesting where
  /-- Whether a string is open. -/
  inString : Bool := false
  /-- The number of open parentheses. -/
  depth : Nat := 0
  deriving DecidableEq, Repr, Inhabited

namespace ValueNesting

/-- The nesting after one more character; a surplus closing parenthesis has no effect. -/
def next (state : ValueNesting) (char : Char) : ValueNesting :=
  if char = '\'' then { state with inString := !state.inString }
  else if state.inString then state
  else if char = '(' then { state with depth := state.depth + 1 }
  else if char = ')' then { state with depth := state.depth - 1 }
  else state

/-- Lists of values. -/
def nesting : Nesting ValueNesting where
  start := {}
  next := next
  separates state := !state.inString && state.depth == 0

end ValueNesting

/-- Lists of identifiers, in which only double quotes hide commas. -/
def identifierNesting : Nesting Bool where
  start := false
  next inIdentifier char := if char = '"' then !inIdentifier else inIdentifier
  separates inIdentifier := !inIdentifier

/-- The items of a list of values. -/
def valueItems (text : Text) : List Text :=
  ValueNesting.nesting.items text

/-- The items of a list of identifiers. -/
def identifierItems (text : Text) : List Text :=
  identifierNesting.items text

end SqlDump
