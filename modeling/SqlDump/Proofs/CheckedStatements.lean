import SqlDump.Insert.Column
import SqlDump.Proofs.CheckedBindings
import SqlDump.Proofs.ValuesClause

/-!
# Taking statements apart with every cut checked

Statements are located in, rewritten, prepared and searched once more.  Beside the cuts, every
parenthesis that closes must close an open one, and every item that is removed must exist.
-/

namespace SqlDump
namespace Checked

/-! ## Parentheses -/

/-- Counts the open parentheses from `depth` on, up to the one that closes the last of them.  The
count is not taken below zero. -/
def closingFrom (region : Region) (depth : Nat) (position : Nat) : Text → Checked (Option Nat)
  | [] => pure none
  | char :: rest =>
    if region = .plain ∧ char = '(' then
      closingFrom region (depth + 1) (position + char.utf8Size) rest
    else if region = .plain ∧ char = ')' then
      match depth with
      | 0 => attempt none
      | depth + 1 =>
        if depth = 0 then pure (some position)
        else closingFrom region depth (position + char.utf8Size) rest
    else closingFrom (region.next char) depth (position + char.utf8Size) rest

/-- While a parenthesis is open, the count can be taken down. -/
theorem closingFrom_eq (region : Region) (depth position : Nat) (text : Text) :
    closingFrom region (depth + 1) position text =
      pure (Parenthesis.closingFrom? region depth position text) := by
  fun_induction Parenthesis.closingFrom? region depth position text with
  | case1 => rfl
  | case2 region position char rest closing =>
    obtain ⟨rfl, rfl⟩ := closing
    rfl
  | case3 region position char rest closing depth inductionHypothesis =>
    obtain ⟨rfl, rfl⟩ := closing
    exact inductionHypothesis
  | case4 region depth position char rest closing opening inductionHypothesis =>
    rw [closingFrom, if_pos opening, inductionHypothesis]
  | case5 region depth position char rest closing opening inductionHypothesis =>
    rw [closingFrom, if_neg opening, if_neg closing, inductionHypothesis]

/-- Byte position of the parenthesis that closes the one at byte position `opening`. -/
def closing (text : Text) (opening : Nat) : Checked Nat :=
  match text.suffixAt? opening with
  | some ('(' :: rest) => do
    match ← closingFrom .plain 0 opening ('(' :: rest) with
    | some position => pure position
    | none => throw (.unbalancedParentheses opening)
  | _ => throw (.unbalancedParentheses opening)

/-- The count starts at an opening parenthesis and never goes below zero. -/
theorem closing_eq (text : Text) (opening : Nat) :
    closing text opening = of (Parenthesis.closing text opening) := by
  unfold closing Parenthesis.closing
  cases text.suffixAt? opening with
  | none => rfl
  | some suffix =>
    cases suffix with
    | nil => rfl
    | cons first rest =>
      by_cases opens : first = '('
      · subst opens
        have counted : closingFrom .plain 0 opening ('(' :: rest) =
            pure (Parenthesis.closingFrom? .plain 0 (opening + 1) rest) :=
          closingFrom_eq .plain 0 (opening + 1) rest
        simp only [counted, pure_bind]
        cases Parenthesis.closingFrom? .plain 0 (opening + 1) rest <;> rfl
      · simp [opens]

/-! ## Landmarks -/

/-- Locates the column list of a statement. -/
def locateColumns (statement column : Text) : Checked (Option ListSpan) :=
  match Insert.afterHeader? statement with
  | none => pure none
  | some target =>
    match Insert.openingFrom? false (statement.byteLength - target.byteLength) target with
    | none => throw (.missingColumnList column)
    | some opening => do
      let closing ← closing statement opening
      pure (some ⟨opening, closing⟩)

theorem locateColumns_eq (statement column : Text) :
    locateColumns statement column = of (Insert.locateColumns statement column) := by
  unfold locateColumns Insert.locateColumns
  cases Insert.afterHeader? statement with
  | none => rfl
  | some target =>
    dsimp only
    cases Insert.openingFrom? false (statement.byteLength - target.byteLength) target with
    | none => rfl
    | some opening =>
      dsimp only
      rw [closing_eq]
      exact of_bind _ fun _ _ => rfl

/-- Locates the value list of a statement: what stands in front of the keyword is cut off. -/
def locateValues (statement : Text) (start : Nat) : Checked ValuesClause :=
  match Keyword.locate? Keyword.values statement start with
  | none => throw (.missingValuesClause statement)
  | some keyword => do
    let behind ← attempt (statement.cut? keyword statement.byteLength)
    match behind.position? (· == '(') with
    | none => throw (.missingValuesList statement)
    | some distance => do
      let closing ← closing statement (keyword + distance)
      pure ⟨keyword, ⟨keyword + distance, closing⟩⟩

/-- The keyword stands between characters, wherever the search starts. -/
theorem locateValues_eq (statement : Text) (start : Nat) :
    locateValues statement start = of (Insert.locateValues statement start) := by
  unfold locateValues Insert.locateValues
  cases located : Keyword.locate? Keyword.values statement start with
  | none => rfl
  | some keyword =>
    rw [Keyword.locate?, if_neg (by decide)] at located
    obtain ⟨front, back, rfl, place, -, -⟩ := Keyword.begins_of_locateFrom? located
    rw [Nat.zero_add] at place
    subst place
    dsimp only
    rw [attempt_bind (Text.cut?_behind front back), Text.dropBytes_byteLength_append]
    cases back.position? (· == '(') with
    | none => rfl
    | some distance =>
      dsimp only
      rw [closing_eq]
      exact of_bind _ fun _ _ => rfl

/-! ## Cuts at parentheses -/

section Parentheses

variable {text : Text} {opening closing : Nat}

/-- What stands between matching parentheses can be cut out. -/
theorem cut?_of_closing (closes : Parenthesis.closing text opening = .ok closing) :
    text.cut? (opening + 1) closing = some (ListSpan.content ⟨opening, closing⟩ text) := by
  obtain ⟨front, inner, back, rfl, rfl, rfl, -⟩ := Parenthesis.exists_append_of_closing closes
  have inside := Text.cut?_between front inner back '(' ')' rfl
  rw [ListSpan.content, inside, Text.slice_of_cut? inside]

/-- What stands in front of an opening parenthesis can be cut off. -/
theorem cut?_front_of_closing (closes : Parenthesis.closing text opening = .ok closing) :
    text.cut? 0 opening = some (text.takeBytes opening) := by
  obtain ⟨front, inner, back, rfl, rfl, -⟩ := Parenthesis.exists_append_of_closing closes
  rw [Text.cut?_front, Text.takeBytes_byteLength_append]

/-- What stands behind a closing parenthesis can be cut off. -/
theorem cut?_behind_of_closing (closes : Parenthesis.closing text opening = .ok closing) :
    text.cut? (closing + 1) text.byteLength = some (text.dropBytes (closing + 1)) := by
  obtain ⟨front, inner, back, rfl, rfl, rfl, -⟩ := Parenthesis.exists_append_of_closing closes
  have whole : front ++ '(' :: (inner ++ ')' :: back) = front ++ '(' :: (inner ++ [')']) ++ back := by
    simp
  have size : front.byteLength + 1 + Text.byteLength inner + 1 =
      Text.byteLength (front ++ '(' :: (inner ++ [')'])) := by
    have opening : '('.utf8Size = 1 := rfl
    have closing : ')'.utf8Size = 1 := rfl
    simp [opening, closing, Nat.add_assoc]
  rw [whole, size, Text.cut?_behind, Text.dropBytes_byteLength_append]

end Parentheses

/-! ## Removing a column -/

/-- The items of a list without the one at a place, if there is one. -/
def erased? (items : List Text) (index : Nat) : Option (List Text) :=
  if index < items.length then some (items.eraseIdx index) else none

/-- Removes the column at a place of the column list, and its value: the value list, the text in
front of the column list and the text behind the value list are cut off. -/
def removeAt (statement : Text) (columnList : ListSpan) (columns : List Text) (index : Nat) :
    Checked Text := do
  let clause ← locateValues statement columnList.closing
  let content ← attempt (statement.cut? (clause.list.opening + 1) clause.list.closing)
  let values := valueItems content
  if values.length ≠ columns.length then throw (.countMismatch columns.length values.length)
  else do
    let columns ← attempt (erased? columns index)
    let values ← attempt (erased? values index)
    let head ← attempt (statement.cut? 0 columnList.opening)
    let trailing ← attempt (statement.cut? (clause.list.closing + 1) statement.byteLength)
    pure (Insert.assemble head.trim columns values trailing.trim)

/-- A column of the list is removed without a cut that is not possible. -/
theorem removeAt_eq
    {statement : Text}
    {columnList : ListSpan}
    {columns : List Text}
    {index : Nat}
    (closes : Parenthesis.closing statement columnList.opening = .ok columnList.closing)
    (inside : index < columns.length) :
    removeAt statement columnList columns index =
      of (Insert.removeAt statement columnList columns index) := by
  unfold removeAt Insert.removeAt
  rw [locateValues_eq]
  refine of_bind _ fun clause located => ?_
  have matched := (Insert.landmarks_of_locateValues located).2.2
  rw [attempt_bind (cut?_of_closing matched)]
  dsimp only
  split
  · rfl
  · rename_i same
    rw [not_not] at same
    have erasedColumns : erased? columns index = some (columns.eraseIdx index) := if_pos inside
    have erasedValues : erased? (valueItems (clause.list.content statement)) index =
        some ((valueItems (clause.list.content statement)).eraseIdx index) :=
      if_pos (same ▸ inside)
    rw [attempt_bind erasedColumns, attempt_bind erasedValues,
      attempt_bind (cut?_front_of_closing closes), attempt_bind (cut?_behind_of_closing matched)]
    rfl

/-- The place of the first identifier with a name: every identifier is unquoted. -/
def columnIndex? (columns : List Text) (name : Text) : Checked (Option Nat) := do
  let names ← columns.mapM identifierName
  pure (names.findIdx? fun column => column.lowerCase == name.lowerCase)

theorem columnIndex?_eq (columns : List Text) (name : Text) :
    columnIndex? columns name = pure (Insert.columnIndex? columns name) := by
  have unquoted : columns.mapM identifierName = pure (columns.map Quoted.identifierName) := by
    rw [← List.mapM_pure]
    exact congrArg (List.mapM · columns) (funext identifierName_eq)
  rw [columnIndex?, unquoted, pure_bind, List.findIdx?_map]
  rfl

/-- Removes a column and its value from a statement: the column list is cut out. -/
def removeColumn (statement column : Text) : Checked Text := do
  let statement := statement.trim
  match ← locateColumns statement column with
  | none => pure statement
  | some columnList =>
    let content ← attempt (statement.cut? (columnList.opening + 1) columnList.closing)
    let columns := identifierItems content
    match ← columnIndex? columns column with
    | none => pure (DateLiteral.normalize statement)
    | some index => do
      let shortened ← removeAt statement columnList columns index
      pure (DateLiteral.normalize shortened)

/-- A column is removed from any statement without a cut that is not possible. -/
theorem removeColumn_eq (statement column : Text) :
    removeColumn statement column = of (Insert.removeColumn statement column) := by
  unfold removeColumn Insert.removeColumn
  dsimp only
  rw [locateColumns_eq]
  refine of_bind _ fun columnList located => ?_
  cases columnList with
  | none => rfl
  | some columnList =>
    have closes := Insert.closing_of_locateColumns located
    dsimp only
    rw [attempt_bind (cut?_of_closing closes), columnIndex?_eq, pure_bind]
    cases found : Insert.columnIndex? (identifierItems (columnList.content statement.trim))
        column with
    | none => rfl
    | some index =>
      have inside : index < (identifierItems (columnList.content statement.trim)).length :=
        (List.findIdx?_eq_some_iff_getElem.mp found).1
      dsimp only
      rw [removeAt_eq closes inside]
      exact of_bind _ fun _ _ => rfl

/-! ## Placeholders -/

/-- The values for spelled values. -/
def bindAll (policy : LargeTextPolicy) : List Text → Checked (List Binding)
  | [] => pure []
  | token :: rest => do
    let binding ← bindValue policy token
    let bindings ← bindAll policy rest
    pure (binding :: bindings)

theorem bindAll_eq (policy : LargeTextPolicy) (tokens : List Text) :
    bindAll policy tokens = of (Insert.bindAll policy tokens) := by
  induction tokens with
  | nil => rfl
  | cons token rest inductionHypothesis =>
    rw [bindAll, Insert.bindAll, bindValue_eq, inductionHypothesis]
    exact of_bind _ fun _ _ => of_bind _ fun _ _ => rfl

/-- Replaces the values of a statement by placeholders: the value list is cut out, and the text in
front of the keyword cut off. -/
def prepare (policy : LargeTextPolicy) (statement : Text) : Checked PreparedInsert := do
  let clause ← locateValues statement 0
  let head ← attempt (statement.cut? 0 clause.keyword)
  let content ← attempt (statement.cut? (clause.list.opening + 1) clause.list.closing)
  let bindings ← bindAll policy (valueItems content)
  let placeholders := List.intercalate [',', ' '] (List.replicate bindings.length ['?'])
  pure {
    statement := head ++ Keyword.values ++ ' ' :: '(' :: (placeholders ++ [')'])
    bindings }

/-- Any statement is prepared without a cut that is not possible. -/
theorem prepare_eq (policy : LargeTextPolicy) (statement : Text) :
    prepare policy statement = of (Insert.prepare policy statement) := by
  unfold prepare Insert.prepare
  rw [locateValues_eq]
  refine of_bind _ fun clause located => ?_
  obtain ⟨found, -, matched⟩ := Insert.landmarks_of_locateValues located
  have head : statement.cut? 0 clause.keyword = some (statement.takeBytes clause.keyword) := by
    rw [Keyword.locate?, if_neg (by decide)] at found
    obtain ⟨front, back, rfl, place, -, -⟩ := Keyword.begins_of_locateFrom? found
    rw [Nat.zero_add] at place
    rw [place, Text.cut?_front, Text.takeBytes_byteLength_append]
  rw [attempt_bind head, attempt_bind (cut?_of_closing matched), bindAll_eq]
  exact of_bind _ fun _ _ => rfl

end Checked

/-! ## Oversized strings -/

namespace LargeTextPolicy

variable (policy : LargeTextPolicy)

/-- In front of the last character, a search outside strings takes one character at a time. -/
theorem exceededFrom_plain_cons (char : Char) (rest : Text) :
    policy.exceededFrom .plain (char :: rest) =
      policy.exceededFrom
        (if char = '\'' then .string [] else if char = '"' then .identifier else .plain) rest := by
  cases rest <;> rfl

theorem exceededFrom_identifier_cons (char : Char) (rest : Text) :
    policy.exceededFrom .identifier (char :: rest) =
      policy.exceededFrom (if char = '"' then .plain else .identifier) rest := by
  cases rest <;> rfl

/-- A string that is never closed is not oversized. -/
theorem exceededFrom_of_open
    {position : Nat}
    {text : Text}
    (unclosed : Quoted.closingQuoteFrom? position text = none)
    (reversed : Text) :
    policy.exceededFrom (.string reversed) text = false := by
  fun_induction Quoted.closingQuoteFrom? position text generalizing reversed with
  | case1 => rfl
  | case2 => cases unclosed
  | case3 position char other => simp [exceededFrom, other]
  | case4 position rest inductionHypothesis =>
    rw [exceededFrom, if_neg (not_not_intro rfl), if_pos rfl]
    exact inductionHypothesis unclosed _
  | case5 => cases unclosed
  | case6 position char next rest other inductionHypothesis =>
    rw [exceededFrom, if_pos other]
    exact inductionHypothesis unclosed _

/-- Behind the quote that closes a string the search goes on in plain text, unless the string is
oversized. -/
theorem exceededFrom_of_closed
    {position closing : Nat}
    {text : Text}
    (closed : Quoted.closingQuoteFrom? position text = some closing) :
    ∃ body behind : Text, text = body ++ '\'' :: behind ∧ closing = position + body.byteLength ∧
      ∀ reversed, policy.exceededFrom (.string reversed) text =
        (policy.isOversized (reversed.reverse ++ body) || policy.exceededFrom .plain behind) := by
  fun_induction Quoted.closingQuoteFrom? position text with
  | case1 => cases closed
  | case2 position =>
    obtain rfl := Option.some.inj closed
    exact ⟨[], [], rfl, rfl, fun reversed => by simp [exceededFrom]⟩
  | case3 => cases closed
  | case4 position rest inductionHypothesis =>
    obtain ⟨body, behind, rfl, place, search⟩ := inductionHypothesis closed
    refine ⟨'\'' :: '\'' :: body, behind, rfl, ?_, fun reversed => ?_⟩
    · have size : '\''.utf8Size = 1 := rfl
      rw [place, Text.byteLength_cons, Text.byteLength_cons, size]
      omega
    · rw [exceededFrom, if_neg (not_not_intro rfl), if_pos rfl, search]
      simp
  | case5 position next rest other =>
    obtain rfl := Option.some.inj closed
    refine ⟨[], next :: rest, rfl, rfl, fun reversed => ?_⟩
    rw [exceededFrom, if_neg (not_not_intro rfl), if_neg other, List.append_nil]
  | case6 position char next rest other inductionHypothesis =>
    obtain ⟨body, behind, whole, place, search⟩ := inductionHypothesis closed
    refine ⟨char :: body, behind, by rw [whole, List.cons_append], ?_, fun reversed => ?_⟩
    · rw [place, Text.byteLength_cons, Nat.add_assoc]
    · rw [exceededFrom, if_pos other, search]
      simp

end LargeTextPolicy

namespace Checked

/-- Searches a text of a statement for an oversized string, in a text that stands at byte position
`position` of the statement.  What stands between the quotes of a string is cut out, and the search
goes on behind it, at byte position `resume`. -/
def exceededFrom (policy : LargeTextPolicy) (statement : Text) (inIdentifier : Bool)
    (resume position : Nat) : Text → Checked Bool
  | [] => pure false
  | char :: rest =>
    if position < resume then
      exceededFrom policy statement inIdentifier resume (position + char.utf8Size) rest
    else if inIdentifier then
      exceededFrom policy statement (char ≠ '"') resume (position + char.utf8Size) rest
    else if char = '\'' then
      match Quoted.closingQuote? statement position with
      | none => pure false
      | some closing => do
        let body ← attempt (statement.cut? (position + 1) closing)
        if policy.isOversized body then pure true
        else exceededFrom policy statement false (closing + 1) (position + char.utf8Size) rest
    else exceededFrom policy statement (char = '"') resume (position + char.utf8Size) rest

/-- Whether some string of a statement is oversized. -/
def isExceededIn (policy : LargeTextPolicy) (statement : Text) : Checked Bool :=
  exceededFrom policy statement false 0 0 statement

/-- In front of the position to go on at, everything is passed over. -/
theorem exceededFrom_skip
    (policy : LargeTextPolicy)
    (statement skipped rest : Text)
    (inIdentifier : Bool)
    (position : Nat) :
    exceededFrom policy statement inIdentifier (position + skipped.byteLength) position
        (skipped ++ rest) =
      exceededFrom policy statement inIdentifier (position + skipped.byteLength)
        (position + skipped.byteLength) rest := by
  induction skipped generalizing position with
  | nil => rfl
  | cons char later inductionHypothesis =>
    have size : 0 < char.utf8Size := Char.utf8Size_pos char
    rw [List.cons_append, exceededFrom, if_pos (by rw [Text.byteLength_cons]; omega),
      Text.byteLength_cons, ← Nat.add_assoc]
    exact inductionHypothesis (position + char.utf8Size)

/-- A string is cut out between its quotes, if it is closed, and the search goes on behind it. -/
theorem exceededFrom_quote
    (policy : LargeTextPolicy)
    (front rest : Text)
    {resume : Nat}
    (reached : resume ≤ front.byteLength)
    (continues : ∀ body behind : Text, rest = body ++ '\'' :: behind →
      exceededFrom policy (front ++ '\'' :: rest) false
          (front.byteLength + 1 + body.byteLength + 1)
          (front.byteLength + 1 + body.byteLength + 1) behind =
        pure (policy.exceededFrom .plain behind)) :
    exceededFrom policy (front ++ '\'' :: rest) false resume front.byteLength ('\'' :: rest) =
      pure (policy.exceededFrom .plain ('\'' :: rest)) := by
  rw [exceededFrom, if_neg (Nat.not_lt.mpr reached), if_neg Bool.false_ne_true, if_pos rfl,
    LargeTextPolicy.exceededFrom_plain_cons, if_pos rfl, Quoted.closingQuote?_append]
  cases closed : Quoted.closingQuoteFrom? (front.byteLength + 1) rest with
  | none => rw [policy.exceededFrom_of_open closed]
  | some closing =>
    obtain ⟨body, behind, rfl, rfl, search⟩ := policy.exceededFrom_of_closed closed
    have inside := Text.cut?_between front body behind '\'' '\'' rfl
    rw [search []]
    dsimp only
    rw [attempt_bind inside, List.reverse_nil, List.nil_append]
    by_cases oversized : policy.isOversized body = true
    · rw [if_pos oversized, oversized, Bool.true_or]
    · rw [if_neg oversized, Bool.eq_false_iff.mpr oversized, Bool.false_or,
        ← continues body behind rfl]
      have skips := exceededFrom_skip policy (front ++ '\'' :: (body ++ '\'' :: behind))
        (body ++ ['\'']) behind false (front.byteLength + 1)
      have size : '\''.utf8Size = 1 := rfl
      simp only [Text.byteLength_append, Text.byteLength_cons, Text.byteLength_nil,
        List.append_assoc, List.singleton_append, Nat.add_zero, size, ← Nat.add_assoc] at skips
      exact skips

/-- Behind the place to go on at, the search finds what it finds without cuts. -/
theorem exceededFrom_eq
    (policy : LargeTextPolicy)
    (front text : Text)
    (inIdentifier : Bool)
    {resume : Nat}
    (reached : resume ≤ front.byteLength) :
    exceededFrom policy (front ++ text) inIdentifier resume front.byteLength text =
      pure (policy.exceededFrom (if inIdentifier then .identifier else .plain) text) := by
  -- The search goes on behind a closed string, so that the induction is on the length of the text.
  induction length : text.length using Nat.strongRecOn
    generalizing text front inIdentifier resume with
  | ind count inductionHypothesis =>
    subst length
    cases text with
    | nil => cases inIdentifier <;> rfl
    | cons char rest =>
      have later (inIdentifier : Bool) :
          exceededFrom policy (front ++ char :: rest) inIdentifier resume
              (front.byteLength + char.utf8Size) rest =
            pure (policy.exceededFrom (if inIdentifier then .identifier else .plain) rest) := by
        have further : resume ≤ Text.byteLength (front ++ [char]) := by
          rw [Text.byteLength_append]
          omega
        have step := inductionHypothesis rest.length (by simp) (front ++ [char]) rest inIdentifier
          further rfl
        simpa using step
      cases inIdentifier with
      | true =>
        rw [exceededFrom, if_neg (Nat.not_lt.mpr reached), if_pos rfl, later, if_pos rfl,
          LargeTextPolicy.exceededFrom_identifier_cons]
        by_cases quote : char = '"' <;> simp [quote]
      | false =>
        by_cases mark : char = '\''
        · subst mark
          refine exceededFrom_quote policy front rest reached fun body behind whole => ?_
          have shorter : behind.length < ('\'' :: rest).length := by
            rw [whole]
            simp
            omega
          have step := inductionHypothesis behind.length shorter (front ++ '\'' :: (body ++ ['\'']))
            behind false (Nat.le_refl _) rfl
          have size : '\''.utf8Size = 1 := rfl
          simp only [Text.byteLength_append, Text.byteLength_cons, Text.byteLength_nil,
            List.append_assoc, List.cons_append, Nat.add_zero, size, ← Nat.add_assoc] at step
          rw [whole]
          exact step
        · rw [exceededFrom, if_neg (Nat.not_lt.mpr reached), if_neg Bool.false_ne_true,
            if_neg mark, later, if_neg Bool.false_ne_true,
            LargeTextPolicy.exceededFrom_plain_cons, if_neg mark]
          by_cases quote : char = '"' <;> simp [quote]

/-- Every string of any statement can be cut out. -/
theorem isExceededIn_eq (policy : LargeTextPolicy) (statement : Text) :
    isExceededIn policy statement = pure (policy.isExceededIn statement) :=
  exceededFrom_eq policy [] statement false (Nat.le_refl 0)

end Checked
end SqlDump
