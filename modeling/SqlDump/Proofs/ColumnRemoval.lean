import Mathlib.Data.List.InsertIdx
import SqlDump.Proofs.NormalizedInsert

/-!
# Removing a column from a written INSERT

A column and its value are taken out of a written INSERT, and the rest of its two lists is
written again between single spaces.  What comes out is a written INSERT as well, so its lists
are located and cut like those of the statement it came from.
-/

namespace SqlDump
namespace Insert

open Unicode (isWhiteSpace)

namespace Written

variable (insert : Written)

/-! ## Trimming -/

/-- The statement without the white space at its ends. -/
def stripped : Written :=
  { insert with
    lead := Blank.empty
    trailing := insert.trailing.trimEnd }

theorem exists_header_eq_cons :
    ∃ char rest, insert.header = char :: rest ∧ isWhiteSpace char = false := by
  obtain ⟨char, rest, word, solid⟩ := exists_cons_of_sameLetters insert.insertWord.property rfl
  refine ⟨char, rest ++ insert.insertGap.val ++ insert.intoWord.val ++
    insert.table.before.val ++ insert.table.text, ?_, solid⟩
  rw [header, word]
  rfl

theorem trim_text : insert.text.trim = insert.stripped.body := by
  obtain ⟨char, rest, header, solid⟩ := insert.exists_header_eq_cons
  have start (back : Text) : (insert.header ++ back).trimStart = insert.header ++ back := by
    rw [header, List.cons_append, Text.trimStart_cons_of_not _ _ solid]
  have body : insert.body = insert.header ++ (insert.table.after.val ++
      '(' :: (listed insert.columns ++ ')' :: (insert.between.val ++ insert.valuesWord.val ++
        insert.valuesGap.val ++ '(' :: (listed insert.values ++ ')' :: insert.trailing)))) := by
    simp [body_eq_columns, beforeColumns]
  have split : insert.body =
      (insert.beforeValues ++ '(' :: listed insert.values) ++ ')' :: insert.trailing := by
    simp [Written.body]
  rw [text, Text.trim_append_of_isBlank _ _ insert.lead.property, Text.trim, body, start, ← body,
    split, Text.trimEnd_append_cons _ _ _ (by decide)]
  simp [Written.body, stripped, beforeValues, beforeClause, beforeColumns, Written.header]

theorem trim_beforeColumns : insert.beforeColumns.trim = insert.header := by
  obtain ⟨char, rest, header, solid⟩ := insert.exists_header_eq_cons
  rw [beforeColumns, Text.trim_append_blank _ _ insert.table.after.property]
  apply Text.trim_eq_self
  · rw [header]
    rintro _ ⟨rfl⟩
    exact solid
  · have last : insert.header.getLast? = insert.table.text.trim.getLast? := by
      rw [insert.table.isKind.trimmed, Written.header, List.getLast?_append,
        List.getLast?_eq_some_getLast insert.table.isKind.nonempty]
      rfl
    rw [last]
    exact Text.getLast?_trim _

/-! ## The two lists -/

/-- Both lists of a statement are located, and they hold these columns and these values. -/
def HasLists (statement : Text) (columns values : List Text) : Prop :=
  ∀ column, ∃ columnList clause,
    locateColumns statement column = .ok (some columnList) ∧
      locateValues statement columnList.closing = .ok clause ∧
      identifierItems (columnList.content statement) = columns ∧
      valueItems (clause.list.content statement) = values

/-- Locating and cutting the lists of a written INSERT gives back what they were written from. -/
theorem hasLists_body :
    HasLists insert.body (insert.columns.map Part.text) (insert.values.map Part.text) := by
  intro column
  refine ⟨insert.columnList, insert.clause, insert.locateColumns_body column,
    insert.locateValues_body, ?_, ?_⟩
  · rw [content_columnList, identifierItems_listed]
  · rw [content_clause, valueItems_listed]

/-! ## Taking out a column -/

/-- The statement with its lists written between single spaces, less one column and value. -/
def without (index : Nat) : Written :=
  { insert with
    lead := Blank.empty
    table := { insert.table with after := Blank.space }
    columns := Part.spaced Blank.space (insert.columns.eraseIdx index)
    between := Blank.space
    valuesWord := ⟨Keyword.values, rfl⟩
    valuesGap := Blank.space
    values := Part.spaced Blank.space (insert.values.eraseIdx index)
    trailing := if insert.trailing.trim.isEmpty then [] else ' ' :: insert.trailing.trim }

/-- The parts that stay are put together to the statement without the column. -/
theorem assemble_eq_body_without (index : Nat) :
    assemble insert.header ((insert.columns.map Part.text).eraseIdx index)
      ((insert.values.map Part.text).eraseIdx index) insert.trailing.trim =
        (insert.without index).body := by
  have columns : listed (insert.without index).columns =
      List.intercalate [',', ' '] ((insert.columns.map Part.text).eraseIdx index) := by
    rw [List.eraseIdx_map]
    exact listed_spaced Blank.space _
  have values : listed (insert.without index).values =
      List.intercalate [',', ' '] ((insert.values.map Part.text).eraseIdx index) := by
    rw [List.eraseIdx_map]
    exact listed_spaced Blank.space _
  rw [body, beforeValues, beforeClause, columns, values]
  simp [without, beforeColumns, header, assemble, parenthesized]

theorem without_stripped (index : Nat) : insert.stripped.without index = insert.without index := by
  simp only [without, stripped, Text.trim_trimEnd]

theorem map_text_columns_without (index : Nat) :
    (insert.without index).columns.map Part.text =
      (insert.columns.map Part.text).eraseIdx index := by
  rw [List.eraseIdx_map]
  exact Part.map_text_spaced Blank.space _

theorem map_text_values_without (index : Nat) :
    (insert.without index).values.map Part.text =
      (insert.values.map Part.text).eraseIdx index := by
  rw [List.eraseIdx_map]
  exact Part.map_text_spaced Blank.space _

/-- Rewriting its dates leaves the lists of what is left where they are. -/
theorem hasLists_normalize_without (index : Nat) :
    HasLists (DateLiteral.normalize (insert.without index).body)
      (((insert.columns.map Part.text).eraseIdx index).map DateLiteral.normalize)
      (((insert.values.map Part.text).eraseIdx index).map DateLiteral.normalize) := by
  rw [← body_normalized, ← map_text_columns_without, ← map_text_values_without,
    ← map_text_columns_normalized, ← map_text_values_normalized]
  exact (insert.without index).normalized.hasLists_body

theorem removeAt_body (index : Nat) :
    removeAt insert.body insert.columnList (insert.columns.map Part.text) index =
      if insert.columns.length = insert.values.length then .ok (insert.without index).body
      else .error (.countMismatch insert.columns.length insert.values.length) := by
  have head : insert.body.takeBytes insert.columnList.opening = insert.beforeColumns := by
    rw [body_eq_columns]
    exact Text.takeBytes_byteLength_append _ _
  have behind : insert.body.dropBytes (insert.clause.list.closing + 1) = insert.trailing := by
    have split : insert.body =
        (insert.beforeValues ++ '(' :: (listed insert.values ++ [')'])) ++ insert.trailing := by
      simp [body]
    have place : insert.clause.list.closing + 1 =
        (insert.beforeValues ++ '(' :: (listed insert.values ++ [')'])).byteLength := by
      have opening : '('.utf8Size = 1 := rfl
      have closing : ')'.utf8Size = 1 := rfl
      simp only [clause, Text.byteLength_append, Text.byteLength_cons, Text.byteLength_nil,
        opening, closing]
      omega
    rw [split, place, Text.dropBytes_byteLength_append]
  have values : valueItems (insert.clause.list.content insert.body) =
      insert.values.map Part.text := by
    rw [content_clause, valueItems_listed]
  rw [removeAt, locateValues_body]
  simp only [bind, Except.bind, values, List.length_map, head, behind, trim_beforeColumns,
    assemble_eq_body_without]
  by_cases equal : insert.columns.length = insert.values.length
  · rw [if_pos equal, if_neg (not_not_intro equal.symm)]
    rfl
  · rw [if_neg equal, if_pos (Ne.symm equal)]

theorem removeColumn_eq (column : Text) :
    removeColumn insert.text column =
      match columnIndex? (insert.columns.map Part.text) column with
      | none => .ok (DateLiteral.normalize insert.text.trim)
      | some index =>
        if insert.columns.length = insert.values.length then
          .ok (DateLiteral.normalize (insert.without index).body)
        else .error (.countMismatch insert.columns.length insert.values.length) := by
  have columns : identifierItems (insert.stripped.columnList.content insert.stripped.body) =
      insert.columns.map Part.text := by
    rw [content_columnList, identifierItems_listed]
    rfl
  have removed (index : Nat) :
      removeAt insert.stripped.body insert.stripped.columnList (insert.columns.map Part.text)
          index =
        if insert.columns.length = insert.values.length then .ok (insert.without index).body
        else .error (.countMismatch insert.columns.length insert.values.length) := by
    rw [← without_stripped]
    exact insert.stripped.removeAt_body index
  rw [removeColumn, trim_text, locateColumns_body]
  simp only [bind, Except.bind, columns]
  cases columnIndex? (insert.columns.map Part.text) column with
  | none => rfl
  | some index =>
    simp only [removed]
    by_cases equal : insert.columns.length = insert.values.length
    · simp only [if_pos equal]
      rfl
    · simp only [if_neg equal]

/-- A comma inside a string separates no values. -/
example : removeColumn "INSERT INTO t (a, b) VALUES (1, 'x, y') ".toList "A".toList =
    .ok "INSERT INTO t (b) VALUES ('x, y')".toList := by decide +kernel

end Written
end Insert
end SqlDump
