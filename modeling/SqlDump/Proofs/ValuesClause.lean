import Mathlib.Data.List.Basic
import SqlDump.Insert.Prepared
import SqlDump.Proofs.KeywordOccurrence
import SqlDump.Proofs.Tracking

/-!
# Where the VALUES clause of a statement is found

The word VALUES is searched from the start of a statement when its values are replaced by
placeholders, and from the end of its column list when a column is removed.  Both searches find the
same clause if and only if the word does not occur in front of the end of the column list.
-/

namespace SqlDump
namespace Insert

variable {statement column : Text} {columnList : ListSpan} {clause : ValuesClause}

theorem isAlpha_of_mem_values : ∀ letter ∈ Keyword.values, letter.isAlpha = true :=
  List.all_eq_true.mp rfl

/-- The parentheses of a located column list match. -/
theorem closing_of_locateColumns
    (located : locateColumns statement column = .ok (some columnList)) :
    Parenthesis.closing statement columnList.opening = .ok columnList.closing := by
  unfold locateColumns at located
  split at located
  · cases located
  · split at located
    · cases located
    · rename_i opening _
      cases closes : Parenthesis.closing statement opening with
      | error error =>
        rw [closes] at located
        cases located
      | ok closing =>
        rw [closes] at located
        cases located
        exact closes

/-- A column list ends in plain text, if it starts there. -/
theorem exists_append_of_locateColumns
    (located : locateColumns statement column = .ok (some columnList))
    (closed : Region.plain.after (statement.takeBytes columnList.opening) = .plain) :
    ∃ front back, statement = front ++ ')' :: back ∧ columnList.closing = front.byteLength ∧
      Region.plain.after front = .plain := by
  obtain ⟨before, inner, back, rfl, opening, closing, plain⟩ :=
    Parenthesis.exists_append_of_closing (closing_of_locateColumns located)
  rw [opening, Text.takeBytes_byteLength_append] at closed
  refine ⟨before ++ '(' :: inner, back, by simp, ?_, ?_⟩
  · have size : '('.utf8Size = 1 := rfl
    rw [closing, Text.byteLength_append, Text.byteLength_cons, size, Nat.add_assoc]
  · rw [Region.after_append, closed, Region.after_cons]
    exact plain

/-- The clause that a search finds depends on where it finds the word VALUES only. -/
theorem locateValues_congr
    {start other : Nat}
    (same : Keyword.locate? Keyword.values statement start =
      Keyword.locate? Keyword.values statement other) :
    locateValues statement start = locateValues statement other := by
  rw [locateValues, locateValues, same]

/-- A located clause is the word VALUES, the first parenthesis behind it and the one that closes
it. -/
theorem landmarks_of_locateValues
    {start : Nat}
    (located : locateValues statement start = .ok clause) :
    Keyword.locate? Keyword.values statement start = some clause.keyword ∧
      (∃ distance, (statement.dropBytes clause.keyword).position? (· == '(') = some distance ∧
        clause.list.opening = clause.keyword + distance) ∧
      Parenthesis.closing statement clause.list.opening = .ok clause.list.closing := by
  unfold locateValues at located
  split at located
  · cases located
  · rename_i keyword found
    split at located
    · cases located
    · rename_i distance opened
      cases closes : Parenthesis.closing statement (keyword + distance) with
      | error error =>
        rw [closes] at located
        cases located
      | ok closing =>
        rw [closes] at located
        cases located
        exact ⟨found, ⟨distance, opened, rfl⟩, closes⟩

theorem locate?_of_locateValues
    {start : Nat}
    (located : locateValues statement start = .ok clause) :
    Keyword.locate? Keyword.values statement start = some clause.keyword :=
  (landmarks_of_locateValues located).1

/-- Preparing a statement binds the values of the clause that is found from its start. -/
theorem prepare_of_locateValues
    (located : locateValues statement 0 = .ok clause)
    (policy : LargeTextPolicy) :
    (prepare policy statement).map PreparedInsert.bindings =
      bindAll policy (valueItems (clause.list.content statement)) := by
  simp only [prepare, located, bind, Except.bind]
  cases bindAll policy (valueItems (clause.list.content statement)) <;> rfl

/-- In a statement whose quotes are closed in front of its column list, the clause behind the column
list is also the one found from the start, unless the word VALUES occurs in front of the end of the
column list; and unless it does, the values that are bound are those behind the column list. -/
theorem locateValues_zero_iff
    (columns : locateColumns statement column = .ok (some columnList))
    (values : locateValues statement columnList.closing = .ok clause)
    (closed : Region.plain.after (statement.takeBytes columnList.opening) = .plain) :
    (locateValues statement 0 = .ok clause ↔
      Keyword.IsAbsent Keyword.values (statement.takeBytes columnList.closing)) ∧
    (Keyword.IsAbsent Keyword.values (statement.takeBytes columnList.closing) →
      ∀ policy, (prepare policy statement).map PreparedInsert.bindings =
        bindAll policy (valueItems (clause.list.content statement))) := by
  obtain ⟨front, back, rfl, closing, plain⟩ := exists_append_of_locateColumns columns closed
  rw [closing] at values ⊢
  rw [Text.takeBytes_byteLength_append]
  have ends : Keyword.endsBeside (List.head? (')' :: back)) = true := rfl
  have whenAbsent (absent : Keyword.IsAbsent Keyword.values front) :
      locateValues (front ++ ')' :: back) 0 = .ok clause := by
    rw [← values]
    exact locateValues_congr
      (Keyword.locate?_append_of_isAbsent isAlpha_of_mem_values plain ends absent)
  refine ⟨⟨?_, whenAbsent⟩, fun absent => prepare_of_locateValues (whenAbsent absent)⟩
  intro located
  by_contra present
  have differs := Keyword.locate?_append_of_not_isAbsent isAlpha_of_mem_values ends present
  exact differs ((locate?_of_locateValues located).trans (locate?_of_locateValues values).symm)

/-- In quotes the word VALUES may name a table and a column. -/
theorem locateValues_zero_iff_of_quoted_names :
    let statement : Text := "INSERT INTO \"VALUES\" (A$B, \"VALUES\") VALUES ('x', 1)".toList
    let policy : LargeTextPolicy := {}
    locateColumns statement ['A'] = .ok (some ⟨21, 35⟩) ∧
      Region.plain.after (statement.takeBytes 21) = .plain ∧
      Keyword.IsAbsent Keyword.values (statement.takeBytes 35) ∧
      locateValues statement 35 = .ok ⟨37, ⟨44, 51⟩⟩ ∧
      locateValues statement 0 = .ok ⟨37, ⟨44, 51⟩⟩ ∧
      (prepare policy statement).map PreparedInsert.bindings = .ok [.text ['x'], .long 1] := by
  intro statement policy
  have columns : locateColumns statement ['A'] = .ok (some ⟨21, 35⟩) := by decide +kernel
  have closed : Region.plain.after (statement.takeBytes 21) = .plain := by decide +kernel
  have absent : Keyword.IsAbsent Keyword.values (statement.takeBytes 35) := by decide +kernel
  have values : locateValues statement 35 = .ok ⟨37, ⟨44, 51⟩⟩ := by decide +kernel
  obtain ⟨located, prepared⟩ := locateValues_zero_iff columns values closed
  have bound : bindAll policy (valueItems (ListSpan.content ⟨44, 51⟩ statement)) =
      .ok [.text ['x'], .long 1] := by decide +kernel
  exact ⟨columns, closed, absent, values, located.mpr absent, (prepared absent policy).trans bound⟩

/-- A dollar sign ends a word, so that the last part of a table's name is taken for the word VALUES
and the names of the columns are bound as values. -/
theorem prepare_binds_column_names :
    let statement : Text := "INSERT INTO T$VALUES (A, B) VALUES (1, 'x')".toList
    let policy : LargeTextPolicy := {}
    locateColumns statement ['A'] = .ok (some ⟨21, 26⟩) ∧
      locateValues statement 26 = .ok ⟨28, ⟨35, 42⟩⟩ ∧
      locateValues statement 0 = .ok ⟨14, ⟨21, 26⟩⟩ ∧
      (prepare policy statement).map PreparedInsert.bindings = .ok [.text ['A'], .text ['B']] := by
  intro statement policy
  decide +kernel

end Insert
end SqlDump
