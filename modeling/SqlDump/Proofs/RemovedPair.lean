import Mathlib.Data.List.InsertIdx
import SqlDump.Proofs.Sections

/-!
# What removing a column takes out

A column is removed with one comma beside it, and so is its value.  All other characters of the two
lists, of the text in front of them and of the text behind them stay, white space aside.  What
stands between the column list and the word VALUES, or between the word and its list, is lost.
-/

namespace SqlDump

open Unicode (isWhiteSpace)

/-! ## Characters that are no white space -/

namespace Text

/-- A text without its white space. -/
def solid (text : Text) : Text :=
  text.filter (!isWhiteSpace ·)

@[simp] theorem solid_nil : solid [] = [] := rfl

@[simp] theorem solid_append (front back : Text) : solid (front ++ back) = solid front ++ solid back :=
  List.filter_append _ _

theorem solid_cons_of_not {char : Char} (visible : isWhiteSpace char = false) (rest : Text) :
    solid (char :: rest) = char :: solid rest := by
  simp [solid, visible]

@[simp] theorem solid_opening (rest : Text) : solid ('(' :: rest) = '(' :: solid rest :=
  solid_cons_of_not (by decide) rest

@[simp] theorem solid_closing (rest : Text) : solid (')' :: rest) = ')' :: solid rest :=
  solid_cons_of_not (by decide) rest

@[simp] theorem solid_space (rest : Text) : solid (' ' :: rest) = solid rest := rfl

theorem solid_eq_nil_iff (text : Text) : solid text = [] ↔ isBlank text = true := by
  simp [solid, isBlank]

/-- Trimming takes white space only. -/
@[simp] theorem solid_trim (text : Text) : solid (trim text) = solid text := by
  obtain ⟨before, after, beforeBlank, afterBlank, whole⟩ := exists_trim_between text
  have front := (solid_eq_nil_iff before).mpr beforeBlank
  have back := (solid_eq_nil_iff after).mpr afterBlank
  conv => rhs; rw [whole]
  rw [solid_append, solid_append, front, back, List.nil_append, List.append_nil]

/-- Two lists one after the other are written with a separator between them. -/
theorem intercalate_append
    (separator : Text)
    {front back : List Text}
    (someFront : front ≠ [])
    (someBack : back ≠ []) :
    List.intercalate separator (front ++ back) =
      List.intercalate separator front ++ (separator ++ List.intercalate separator back) := by
  induction front with
  | nil => exact absurd rfl someFront
  | cons item rest inductionHypothesis =>
    by_cases final : rest = []
    · rw [final, List.singleton_append, List.intercalate_cons_of_ne_nil someBack,
        List.intercalate_singleton, List.append_assoc]
    · rw [List.cons_append, List.intercalate_cons_of_ne_nil (by simp [final]),
        List.intercalate_cons_of_ne_nil final, inductionHypothesis final]
      simp

/-- Commas between trimmed items may have a space behind them. -/
theorem solid_intercalate_trim (pieces : List Text) :
    solid (List.intercalate [',', ' '] (pieces.map trim)) =
      solid (List.intercalate [','] pieces) := by
  induction pieces with
  | nil => rfl
  | cons piece rest inductionHypothesis =>
    by_cases final : rest = []
    · simp [final]
    · have spaced : solid [',', ' '] = solid [','] := rfl
      rw [List.map_cons, List.intercalate_cons_of_ne_nil (by simp [final]),
        List.intercalate_cons_of_ne_nil final]
      simp only [solid_append, solid_trim, inductionHypothesis, spaced]

end Text

/-! ## Taking an item out of a list -/

/-- A list without one of its items.  The item goes with a comma beside it, if there is another
item, and a final comma may go as well. -/
inductive WithoutItem (item : Text) : Text → Text → Prop where
  /-- The item was the only one. -/
  | only {final : Text} (isFinal : final = [] ∨ final = [',']) :
      WithoutItem item (item ++ final) []
  /-- The item goes with the comma behind it. -/
  | withNext {front back final : Text}
      (starts : front = [] ∨ front.getLast? = some ',')
      (isFinal : final = [] ∨ final = [',']) :
      WithoutItem item (front ++ (item ++ ',' :: (back ++ final))) (front ++ back)
  /-- The item is the last one and goes with the comma in front of it. -/
  | withPrevious {front final : Text}
      (isFinal : final = [] ∨ final = [',']) :
      WithoutItem item (front ++ (',' :: (item ++ final))) front

namespace Nesting

variable {σ : Type}

/-- The items of a list are trimmed pieces of its text, which has commas between them and perhaps
one behind the last. -/
theorem exists_pieces
    (nesting : Nesting σ)
    {text : Text}
    (nonempty : nesting.items text ≠ []) :
    ∃ (pieces : List Text) (final : Text), nesting.items text = pieces.map Text.trim ∧
      text = List.intercalate [','] pieces ++ final ∧ (final = [] ∨ final = [',']) := by
  have whole := nesting.intercalate_piecesFrom nesting.start text
  unfold items dropEmptyLast at nonempty ⊢
  split
  · rename_i empty
    rw [if_pos empty] at nonempty
    obtain ⟨front, pieces⟩ := List.getLast?_eq_some_iff.mp empty
    rw [pieces, List.dropLast_concat] at nonempty ⊢
    have others : front ≠ [] := fun none => nonempty (by rw [none, List.map_nil])
    rw [pieces, Text.intercalate_append _ others (List.cons_ne_nil _ _)] at whole
    exact ⟨front, [','], rfl, whole.symm, .inr rfl⟩
  · exact ⟨_, [], rfl, by rw [List.append_nil, whole], .inl rfl⟩

/-- Of a list without one of its pieces, the piece is gone with a comma beside it. -/
theorem withoutItem_intercalate
    (front : List Text)
    (item : Text)
    (back : List Text)
    {final : Text}
    (isFinal : final = [] ∨ final = [',']) :
    WithoutItem item (List.intercalate [','] (front ++ item :: back) ++ final)
      (List.intercalate [','] (front ++ back)) := by
  by_cases noFront : front = []
  · by_cases noBack : back = []
    · rw [noFront, noBack, List.nil_append, List.intercalate_singleton]
      exact .only isFinal
    · have removed : WithoutItem item
          ([] ++ (item ++ ',' :: (List.intercalate [','] back ++ final)))
          ([] ++ List.intercalate [','] back) :=
        .withNext (.inl rfl) isFinal
      rw [noFront, List.nil_append, List.nil_append, List.intercalate_cons_of_ne_nil noBack]
      simpa using removed
  · by_cases noBack : back = []
    · have removed : WithoutItem item
          (List.intercalate [','] front ++ (',' :: (item ++ final)))
          (List.intercalate [','] front) :=
        .withPrevious isFinal
      rw [noBack, Text.intercalate_append _ noFront (List.cons_ne_nil _ _), List.append_nil]
      simpa using removed
    · have removed : WithoutItem item
          (List.intercalate [','] front ++ [','] ++
            (item ++ ',' :: (List.intercalate [','] back ++ final)))
          (List.intercalate [','] front ++ [','] ++ List.intercalate [','] back) :=
        .withNext (.inr List.getLast?_concat) isFinal
      rw [Text.intercalate_append _ noFront (List.cons_ne_nil _ _),
        List.intercalate_cons_of_ne_nil noBack, Text.intercalate_append _ noFront noBack]
      simpa using removed

/-- An item is taken out of the text of a list with a comma beside it; the other items stay, white
space around them aside. -/
theorem exists_withoutItem
    (nesting : Nesting σ)
    {text : Text}
    {index : Nat}
    (inside : index < (nesting.items text).length) :
    ∃ item rest : Text, (nesting.items text)[index]? = some item.trim ∧
      WithoutItem item text rest ∧
      Text.solid (List.intercalate [',', ' '] ((nesting.items text).eraseIdx index)) =
        rest.solid := by
  obtain ⟨pieces, final, listed, whole, isFinal⟩ :=
    nesting.exists_pieces (List.ne_nil_of_length_pos (Nat.zero_lt_of_lt inside))
  rw [listed, List.length_map] at inside
  rw [listed]
  have split : pieces = pieces.take index ++ pieces[index] :: pieces.drop (index + 1) := by simp
  refine ⟨pieces[index], List.intercalate [','] (pieces.eraseIdx index), ?_, ?_, ?_⟩
  · simp [inside]
  · have removed :=
      withoutItem_intercalate (pieces.take index) pieces[index] (pieces.drop (index + 1)) isFinal
    rwa [← split, ← whole, ← List.eraseIdx_eq_take_drop_succ] at removed
  · rw [List.eraseIdx_map, Text.solid_intercalate_trim]

end Nesting

/-! ## Taking a column out of a statement -/

namespace Insert

variable {statement column result : Text} {columnList : ListSpan} {index : Nat}

/-- A column is only removed with a value at its place. -/
theorem exists_clause_of_removeAt
    {columns : List Text}
    {shortened : Text}
    (removed : removeAt statement columnList columns index = .ok shortened) :
    ∃ clause, locateValues statement columnList.closing = .ok clause ∧
      (valueItems (clause.list.content statement)).length = columns.length ∧
      shortened =
        assemble (statement.takeBytes columnList.opening).trim (columns.eraseIdx index)
          ((valueItems (clause.list.content statement)).eraseIdx index)
          (statement.dropBytes (clause.list.closing + 1)).trim := by
  unfold removeAt at removed
  cases located : locateValues statement columnList.closing with
  | error error =>
    rw [located] at removed
    cases removed
  | ok clause =>
    rw [located] at removed
    simp only [bind, Except.bind] at removed
    split at removed
    · cases removed
    · rename_i same
      exact ⟨clause, rfl, not_not.mp same, (Except.ok.inj removed).symm⟩

/-- A statement with the column is rewritten without it, and its dates are rewritten then. -/
theorem exists_removeAt_of_removeColumn
    (located : locateColumns statement.trim column = .ok (some columnList))
    (found : columnIndex? (identifierItems (columnList.content statement.trim)) column = some index)
    (removed : removeColumn statement column = .ok result) :
    ∃ shortened, result = DateLiteral.normalize shortened ∧
      removeAt statement.trim columnList (identifierItems (columnList.content statement.trim))
        index = .ok shortened := by
  unfold removeColumn at removed
  simp only [located, bind, Except.bind, found] at removed
  split at removed
  · cases removed
  · rename_i shortened rewritten
    exact ⟨shortened, (Except.ok.inj removed).symm, rewritten⟩

/-- What is seen of a statement that is put together from its parts. -/
theorem solid_assemble (head : Text) (columns values : List Text) (trailing : Text) :
    (assemble head columns values trailing).solid =
      head.solid ++ '(' :: (Text.solid (List.intercalate [',', ' '] columns) ++ ')' ::
        (Keyword.values ++ '(' :: (Text.solid (List.intercalate [',', ' '] values) ++ ')' ::
          trailing.solid))) := by
  have word : Text.solid Keyword.values = Keyword.values := by decide
  have behind : Text.solid (if trailing.isEmpty then [] else ' ' :: trailing) = trailing.solid := by
    cases trailing <;> rfl
  simp only [assemble, parenthesized, Text.solid_append, Text.solid_space, Text.solid_opening,
    Text.solid_closing, Text.solid_nil, word, behind]
  simp

namespace Sections

/-- The sections with other lists, around the word VALUES as it is written anew. -/
def withLists (sections : Sections) (columns values : Text) : Sections :=
  { sections with columns, values, keyword := Keyword.values }

/-- The sections without what stands on the two sides of the keyword. -/
def closedUp (sections : Sections) : Sections :=
  { sections with between := [], gap := [] }

theorem solid_text (sections : Sections) :
    sections.text.solid =
      sections.head.solid ++ '(' :: (sections.columns.solid ++ ')' ::
        (sections.between.solid ++ (sections.keyword.solid ++ (sections.gap.solid ++
          '(' :: (sections.values.solid ++ ')' :: sections.trailing.solid))))) := by
  simp [text, clauseText]

/-- Closing a statement up around its keyword loses nothing but white space exactly when nothing
else stands there. -/
theorem solid_closedUp_iff (sections : Sections) :
    sections.closedUp.text.solid = sections.text.solid ↔
      sections.between.isBlank = true ∧ sections.gap.isBlank = true := by
  rw [← Text.solid_eq_nil_iff, ← Text.solid_eq_nil_iff, solid_text, solid_text]
  constructor
  · intro same
    have length := congrArg List.length same
    simp only [closedUp, Text.solid_nil, List.length_append, List.length_cons, List.length_nil]
      at length
    exact ⟨List.eq_nil_of_length_eq_zero (by omega), List.eq_nil_of_length_eq_zero (by omega)⟩
  · rintro ⟨between, gap⟩
    rw [between, gap]
    rfl

end Sections

/-- What is left of the two lists when the items at a place are taken out. -/
structure Sections.Shortened (sections : Sections) (index : Nat) (columns values : Text) : Prop where
  column : ∃ item : Text, (identifierItems sections.columns)[index]? = some item.trim ∧
    WithoutItem item sections.columns columns
  value : ∃ item : Text, (valueItems sections.values)[index]? = some item.trim ∧
    WithoutItem item sections.values values

/-- Removing a column that is found takes one item out of either list, at the same place, with a
comma beside it.  Of the rest of the statement the result has every character that is no white
space, in order, except for those between the column list and its keyword VALUES and between the
keyword and its list: none is lost exactly when only white space stands there. -/
theorem removeColumn_keeps
    (located : locateColumns statement.trim column = .ok (some columnList))
    (found : columnIndex? (identifierItems (columnList.content statement.trim)) column = some index)
    (removed : removeColumn statement column = .ok result) :
    ∃ (clause : ValuesClause) (sections : Sections) (columns values rewritten : Text),
      locateValues statement.trim columnList.closing = .ok clause ∧
      sections.Divide statement.trim columnList clause ∧
      sections.Shortened index columns values ∧
      result = DateLiteral.normalize rewritten ∧
      rewritten.solid = (sections.withLists columns values).closedUp.text.solid ∧
      (rewritten.solid = (sections.withLists columns values).text.solid ↔
        sections.between.isBlank = true ∧ sections.gap.isBlank = true) := by
  obtain ⟨rewritten, normalized, shortened⟩ := exists_removeAt_of_removeColumn located found removed
  obtain ⟨clause, clauseFound, length, assembled⟩ := exists_clause_of_removeAt shortened
  obtain ⟨sections, divide⟩ := exists_sections located clauseFound
  rw [divide.content_columns] at found length assembled
  rw [divide.content_values] at length assembled
  rw [divide.takeBytes_head, divide.dropBytes_trailing] at assembled
  have columnInside : index < (identifierItems sections.columns).length :=
    (List.findIdx?_eq_some_iff_getElem.mp found).1
  have valueInside : index < (valueItems sections.values).length := length ▸ columnInside
  obtain ⟨name, columns, nameItem, nameRemoved, columnsKept⟩ :=
    identifierNesting.exists_withoutItem columnInside
  obtain ⟨value, values, valueItem, valueRemoved, valuesKept⟩ :=
    ValueNesting.nesting.exists_withoutItem valueInside
  have kept : rewritten.solid = (sections.withLists columns values).closedUp.text.solid := by
    have word : Text.solid Keyword.values = Keyword.values := by decide
    rw [assembled, solid_assemble, Sections.solid_text, Text.solid_trim, Text.solid_trim,
      identifierItems, valueItems, columnsKept, valuesKept]
    simp only [Sections.withLists, Sections.closedUp, Text.solid_nil, List.nil_append, word]
  refine ⟨clause, sections, columns, values, rewritten, clauseFound, divide,
    ⟨⟨name, nameItem, nameRemoved⟩, ⟨value, valueItem, valueRemoved⟩⟩, normalized, kept, ?_⟩
  rw [kept]
  exact (sections.withLists columns values).solid_closedUp_iff

/-- A final comma goes with the last column. -/
theorem removeColumn_keeps_trailing :
    let statement : Text := "INSERT INTO T (A, ID,) values ('x, y', 7) LOG ERRORS".toList
    let column : Text := ['I', 'D']
    locateColumns statement.trim column = .ok (some ⟨14, 21⟩) ∧
      columnIndex? (identifierItems (ListSpan.content ⟨14, 21⟩ statement.trim)) column = some 1 ∧
      removeColumn statement column = .ok "INSERT INTO T (A) VALUES ('x, y') LOG ERRORS".toList ∧
      ∃ (clause : ValuesClause) (sections : Sections) (columns values rewritten : Text),
        locateValues statement.trim 21 = .ok clause ∧
        sections.Divide statement.trim ⟨14, 21⟩ clause ∧
        sections.Shortened 1 columns values ∧
        "INSERT INTO T (A) VALUES ('x, y') LOG ERRORS".toList = DateLiteral.normalize rewritten ∧
        rewritten.solid = (sections.withLists columns values).closedUp.text.solid ∧
        (rewritten.solid = (sections.withLists columns values).text.solid ↔
          sections.between.isBlank = true ∧ sections.gap.isBlank = true) := by
  intro statement column
  have located : locateColumns statement.trim column = .ok (some ⟨14, 21⟩) := by decide +kernel
  have found : columnIndex? (identifierItems (ListSpan.content ⟨14, 21⟩ statement.trim)) column =
      some 1 := by decide +kernel
  have removed : removeColumn statement column =
      .ok "INSERT INTO T (A) VALUES ('x, y') LOG ERRORS".toList := by decide +kernel
  exact ⟨located, found, removed, removeColumn_keeps located found removed⟩

/-- The clause between a column list and its values is lost without an error. -/
theorem removeColumn_loses_clause :
    let statement : Text := "INSERT INTO T (A, B) OVERRIDING SYSTEM VALUE VALUES (1, 2)".toList
    let expected : Text := "INSERT INTO T (B) OVERRIDING SYSTEM VALUE VALUES (2)".toList
    let result : Text := "INSERT INTO T (B) VALUES (2)".toList
    locateColumns statement ['A'] = .ok (some ⟨14, 19⟩) ∧
      locateValues statement 19 = .ok ⟨45, ⟨52, 57⟩⟩ ∧
      removeColumn statement ['A'] = .ok result ∧ result.solid ≠ expected.solid := by
  decide +kernel

end Insert
end SqlDump
