import Mathlib.Algebra.Ring.Nat
import Mathlib.Data.List.Perm.Basic
import SqlDump.Proofs.ColumnRemoval
import SqlDump.Proofs.RemovedPair
import SqlDump.Proofs.RewrittenDates

/-!
# Removing a column a second time

Only the first column of a name is removed.  What removal returns is trimmed and has no date that
is still to be rewritten, so that removing the name again changes nothing if and only if no column
of that name is left.  Another column may have the name in another letter case, or come to have it
when a date in it is rewritten.
-/

namespace SqlDump

open Unicode (isWhiteSpace)

/-! ## Commas of a list -/

namespace Text

/-- A list has one item more than commas between its items. -/
theorem count_intercalate {pieces : List Text} (nonempty : pieces ≠ []) :
    (List.intercalate [','] pieces).count ',' + 1 = (pieces.map (List.count ',' · + 1)).sum := by
  induction pieces with
  | nil => exact absurd rfl nonempty
  | cons piece rest inductionHypothesis =>
    by_cases final : rest = []
    · simp [final]
    · have others := inductionHypothesis final
      rw [List.intercalate_cons_of_ne_nil final, List.map_cons, List.sum_cons, ← others]
      simp only [List.count_append, List.count_singleton_self]
      omega

/-- A list has fewer commas without one of its pieces, unless it was the only one. -/
theorem count_intercalate_eraseIdx
    {pieces : List Text}
    {index : Nat}
    (inside : index < pieces.length)
    (several : 1 < pieces.length) :
    (List.intercalate [','] (pieces.eraseIdx index)).count ',' <
      (List.intercalate [','] pieces).count ',' := by
  have left : pieces.eraseIdx index ≠ [] := by
    apply List.ne_nil_of_length_pos
    rw [List.length_eraseIdx_of_lt inside]
    omega
  have before := count_intercalate (List.ne_nil_of_length_pos (Nat.zero_lt_of_lt inside))
  have after := count_intercalate left
  have taken := ((List.getElem_cons_eraseIdx_perm inside).map (List.count ',' · + 1)).sum_nat
  rw [List.map_cons, List.sum_cons] at taken
  omega

/-- What is seen of a text holds every character that is no white space. -/
theorem count_solid {char : Char} (visible : isWhiteSpace char = false) (text : Text) :
    text.solid.count char = text.count char :=
  List.count_filter (by simp [visible])

end Text

/-- A list that loses one of several items loses a comma. -/
theorem Nesting.count_items_eraseIdx
    {σ : Type}
    (nesting : Nesting σ)
    {text : Text}
    {index : Nat}
    (inside : index < (nesting.items text).length)
    (several : 1 < (nesting.items text).length) :
    (List.intercalate [',', ' '] ((nesting.items text).eraseIdx index)).count ',' <
      text.count ',' := by
  obtain ⟨pieces, final, listed, whole, -⟩ :=
    nesting.exists_pieces (List.ne_nil_of_length_pos (Nat.zero_lt_of_lt inside))
  rw [listed, List.length_map] at inside several
  have fewer := Text.count_intercalate_eraseIdx inside several
  have kept : (List.intercalate [','] pieces).count ',' ≤ text.count ',' := by
    rw [whole, List.count_append]
    exact Nat.le_add_right _ _
  rw [listed, List.eraseIdx_map, ← Text.count_solid (by decide), Text.solid_intercalate_trim,
    Text.count_solid (by decide)]
  exact Nat.lt_of_lt_of_le fewer kept

namespace Insert

variable {statement column result : Text} {columnList : ListSpan} {clause : ValuesClause}
  {sections : Sections} {index : Nat}

/-! ## What removal returns -/

/-- A statement is only trimmed, or its dates are rewritten, or it loses a column as well. -/
theorem removeColumn_cases (removed : removeColumn statement column = .ok result) :
    (locateColumns statement.trim column = .ok none ∧ result = statement.trim) ∨
      ∃ columnList, locateColumns statement.trim column = .ok (some columnList) ∧
        ((columnIndex? (identifierItems (columnList.content statement.trim)) column = none ∧
            result = DateLiteral.normalize statement.trim) ∨
          ∃ index,
            columnIndex? (identifierItems (columnList.content statement.trim)) column =
              some index) := by
  unfold removeColumn at removed
  dsimp only [bind, Except.bind] at removed
  cases located : locateColumns statement.trim column with
  | error error =>
    rw [located] at removed
    cases removed
  | ok found =>
    rw [located] at removed
    cases found with
    | none => exact .inl ⟨rfl, (Except.ok.inj removed).symm⟩
    | some columnList =>
      refine .inr ⟨columnList, rfl, ?_⟩
      cases place : columnIndex? (identifierItems (columnList.content statement.trim)) column with
      | none =>
        simp only [place] at removed
        exact .inl ⟨rfl, (Except.ok.inj removed).symm⟩
      | some index => exact .inr ⟨index, rfl⟩

/-- What stands in front of the column list of a trimmed statement starts with no white space. -/
theorem Sections.Divide.exists_head
    (divide : sections.Divide statement columnList clause)
    (located : locateColumns statement column = .ok (some columnList))
    (trimmed : statement.trim = statement) :
    ∃ (char : Char) (front blank : Text), sections.head = char :: (front ++ blank) ∧
      sections.head.trim = char :: front ∧ blank.isBlank = true ∧ isWhiteSpace char = false := by
  have split := divide.text_eq
  cases head : sections.head with
  | nil =>
    -- a statement that starts with a parenthesis is no INSERT
    rw [split, Sections.text, head, List.nil_append] at located
    cases located
  | cons char rest =>
    have visible : isWhiteSpace char = false := by
      have first := statement.head?_trim
      rw [trimmed, split, Sections.text, head] at first
      exact first char rfl
    obtain ⟨blank, white, whole⟩ := Text.exists_trimEnd_append rest
    refine ⟨char, Text.trimEnd rest, blank, by rw [whole], ?_, white, visible⟩
    rw [Text.trim, Text.trimStart_cons_of_not _ _ visible]
    exact Text.trimEnd_append_cons [] char rest visible

theorem trim_assemble
    {char : Char}
    (visible : isWhiteSpace char = false)
    (rest : Text)
    (columns values : List Text)
    (trailing : Text) :
    (assemble (char :: rest) columns values trailing.trim).trim =
      assemble (char :: rest) columns values trailing.trim := by
  apply Text.trim_eq_self
  · rintro _ ⟨rfl⟩
    exact visible
  · cases trimmed : trailing.trim with
    | nil =>
      have closed : (assemble (char :: rest) columns values []).getLast? = some ')' := by
        simp only [assemble, parenthesized, List.isEmpty_nil, if_true, List.append_nil]
        rw [List.getLast?_append, List.getLast?_cons, List.getLast?_cons, List.getLast?_concat]
        rfl
      rw [closed]
      rintro _ ⟨rfl⟩
      rfl
    | cons first later =>
      have ended : (assemble (char :: rest) columns values (first :: later)).getLast? =
          trailing.trim.getLast? := by
        rw [trimmed, assemble, List.getLast?_append]
        simp [List.getLast?_cons]
      rw [ended]
      exact trailing.getLast?_trim

/-- A statement that is rewritten is written without white space around it. -/
theorem trim_of_removeAt
    {columns : List Text}
    {shortened : Text}
    (located : locateColumns statement column = .ok (some columnList))
    (trimmed : statement.trim = statement)
    (removed : removeAt statement columnList columns index = .ok shortened) :
    shortened.trim = shortened := by
  obtain ⟨clause, clauseFound, -, rfl⟩ := exists_clause_of_removeAt removed
  obtain ⟨sections, divide⟩ := exists_sections located clauseFound
  obtain ⟨char, front, blank, -, head, -, visible⟩ := divide.exists_head located trimmed
  rw [divide.takeBytes_head, head]
  exact trim_assemble visible _ _ _ _

/-- What removal returns has no white space around it. -/
theorem trim_of_removeColumn (removed : removeColumn statement column = .ok result) :
    result.trim = result := by
  rcases removeColumn_cases removed with ⟨-, rfl⟩ | ⟨columnList, located, ⟨-, rfl⟩ | ⟨index, found⟩⟩
  · exact statement.trim_trim
  · exact (DateLiteral.Renamed.normalizeAfter none _).trimmed statement.trim_trim
  · obtain ⟨shortened, rfl, rewritten⟩ := exists_removeAt_of_removeColumn located found removed
    exact (DateLiteral.Renamed.normalizeAfter none _).trimmed
      (trim_of_removeAt located statement.trim_trim rewritten)

/-- What removal returns has no date that is to be rewritten, unless it is no INSERT. -/
theorem normalize_of_removeColumn
    (removed : removeColumn statement column = .ok result)
    (located : locateColumns result column = .ok (some columnList)) :
    DateLiteral.normalize result = result := by
  rcases removeColumn_cases removed with
    ⟨absent, rfl⟩ | ⟨columnList, present, ⟨-, rfl⟩ | ⟨index, found⟩⟩
  · rw [absent] at located
    cases located
  · exact DateLiteral.normalize_normalize _
  · obtain ⟨shortened, rfl, -⟩ := exists_removeAt_of_removeColumn present found removed
    exact DateLiteral.normalize_normalize _

/-! ## A column that is found is gone -/

/-- With one of several columns a comma goes. -/
theorem Sections.count_assemble
    (sections : Sections)
    {columns values : List Text}
    (fewerColumns : (List.intercalate [',', ' '] columns).count ',' < sections.columns.count ',')
    (fewerValues : (List.intercalate [',', ' '] values).count ',' < sections.values.count ',') :
    (assemble sections.head.trim columns values sections.trailing.trim).count ',' <
      sections.text.count ',' := by
  have word : Keyword.values.count ',' = 0 := rfl
  have opening (rest : Text) : List.count ',' ('(' :: rest) = rest.count ',' :=
    List.count_cons_of_ne (by decide)
  have closing (rest : Text) : List.count ',' (')' :: rest) = rest.count ',' :=
    List.count_cons_of_ne (by decide)
  rw [← Text.count_solid (by decide), solid_assemble, ← Text.count_solid (by decide) sections.text,
    solid_text]
  simp only [Text.solid_trim, List.count_append, opening, closing, word,
    Text.count_solid (by decide : isWhiteSpace ',' = false)]
  omega

/-- The only column leaves an empty list behind. -/
theorem exists_normalize_assemble
    {head : Text}
    (kept : DateLiteral.normalize head = head)
    (values : List Text)
    (trailing : Text) :
    ∃ later : Text, DateLiteral.normalize (assemble head [] values trailing) =
      head ++ ' ' :: '(' :: ')' :: later := by
  have spaced : DateLiteral.normalize (head ++ [' ']) = head ++ [' '] :=
    (DateLiteral.normalizeAfter_append_blank none head [' '] rfl).trans (congrArg (· ++ [' ']) kept)
  let behind : Text := ' ' :: (Keyword.values ++ ' ' :: (parenthesized values ++
    (if trailing.isEmpty then [] else ' ' :: trailing)))
  have split : assemble head [] values trailing =
      (head ++ [' ']) ++ '(' :: ([] ++ ')' :: behind) := by
    simp [assemble, parenthesized, behind]
  refine ⟨DateLiteral.normalize behind, ?_⟩
  rw [split, DateLiteral.normalize_append_cons _ '(' _ (.inl rfl), spaced,
    DateLiteral.normalize_append_cons [] ')' _ (.inr (.inl rfl))]
  simp [DateLiteral.normalize, DateLiteral.normalizeAfter]

/-- White space in front of a parenthesis is a space if a space stands there. -/
theorem eq_of_blank_append
    {blank rest later : Text}
    (white : blank.isBlank = true)
    (same : blank ++ '(' :: rest = ' ' :: '(' :: later) :
    blank = [' '] ∧ rest = later := by
  rcases blank with _ | ⟨space, _ | ⟨other, more⟩⟩
  · exact absurd (List.cons.inj same).1 (by decide)
  · obtain ⟨rfl, others⟩ := List.cons.inj same
    exact ⟨rfl, (List.cons.inj others).2⟩
  · obtain ⟨rfl, others⟩ := List.cons.inj same
    obtain ⟨rfl, -⟩ := List.cons.inj others
    exact absurd (List.all_eq_true.mp white '(' (by simp)) (by decide)

/-- A list that is empty behind the same head was empty before. -/
theorem Sections.Divide.columns_of_empty
    (divide : sections.Divide statement columnList clause)
    (located : locateColumns statement column = .ok (some columnList))
    {later : Text}
    (same : statement = sections.head ++ '(' :: ')' :: later) :
    sections.columns = [] := by
  have closes := closing_of_locateColumns located
  have empty : Parenthesis.closing (sections.head ++ '(' :: ([] ++ ')' :: later))
      sections.head.byteLength = .ok (sections.head.byteLength + 1 + 0) :=
    Parenthesis.closing_append _ [] later (.nil _)
  rw [same, divide.columns_opening] at closes
  have place : columnList.closing = sections.head.byteLength + 1 + 0 :=
    Except.ok.inj (closes.symm.trans empty)
  have length := Text.length_le_byteLength sections.columns
  have closing := divide.columns_closing
  have opening := divide.columns_opening
  exact List.eq_nil_of_length_eq_zero (by omega)

/-- Without its only column a statement is another statement. -/
theorem Sections.Divide.columns_of_assemble
    (divide : sections.Divide statement columnList clause)
    (located : locateColumns statement column = .ok (some columnList))
    (trimmed : statement.trim = statement)
    (normalized : DateLiteral.normalize statement = statement)
    {values : List Text}
    (same : statement =
      DateLiteral.normalize (assemble sections.head.trim [] values sections.trailing.trim)) :
    sections.columns = [] := by
  have split := divide.text_eq
  obtain ⟨char, front, blank, head, headTrim, white, -⟩ := divide.exists_head located trimmed
  -- the dates in front of the list are rewritten already
  have kept : DateLiteral.normalize sections.head.trim = sections.head.trim := by
    have whole : DateLiteral.normalize sections.head = sections.head := by
      rw [split, Sections.text] at normalized
      exact DateLiteral.normalize_of_append_cons normalized
    rw [DateLiteral.normalize_trim, whole]
  obtain ⟨later, emptied⟩ := exists_normalize_assemble kept values sections.trailing.trim
  have aligned : sections.head ++ '(' :: (sections.columns ++ ')' ::
      (sections.between ++ sections.clauseText)) =
        sections.head.trim ++ ' ' :: '(' :: ')' :: later :=
    split.symm.trans (same.trans emptied)
  rw [headTrim, head, ← List.cons_append, List.append_assoc] at aligned
  obtain ⟨rfl, -⟩ := eq_of_blank_append white (List.append_cancel_left aligned)
  have empty : statement = sections.head ++ '(' :: ')' :: later := by
    rw [same, emptied, headTrim, head]
    simp
  exact divide.columns_of_empty located empty

/-- Of a trimmed statement without dates to be rewritten, no column is removed without a change. -/
theorem removeColumn_ne_self
    (located : locateColumns statement column = .ok (some columnList))
    (found : columnIndex? (identifierItems (columnList.content statement)) column = some index)
    (trimmed : statement.trim = statement)
    (normalized : DateLiteral.normalize statement = statement) :
    removeColumn statement column ≠ .ok statement := by
  intro again
  have locatedTrim : locateColumns statement.trim column = .ok (some columnList) := by
    rwa [trimmed]
  obtain ⟨rewritten, same, shortened⟩ :=
    exists_removeAt_of_removeColumn locatedTrim (trimmed.symm ▸ found) again
  rw [trimmed] at shortened
  obtain ⟨clause, clauseFound, length, assembled⟩ := exists_clause_of_removeAt shortened
  obtain ⟨sections, divide⟩ := exists_sections located clauseFound
  rw [divide.content_columns] at found length assembled
  rw [divide.content_values] at length assembled
  rw [divide.takeBytes_head, divide.dropBytes_trailing] at assembled
  have inside : index < (identifierItems sections.columns).length :=
    (List.findIdx?_eq_some_iff_getElem.mp found).1
  by_cases several : 1 < (identifierItems sections.columns).length
  · have commas : rewritten.count ',' = sections.text.count ',' := by
      have renamed := DateLiteral.Renamed.normalizeAfter none rewritten
      rw [← divide.text_eq, same]
      exact (renamed.count_of_renamed rfl).symm
    have fewer := sections.count_assemble (identifierNesting.count_items_eraseIdx inside several)
      (ValueNesting.nesting.count_items_eraseIdx (length ▸ inside) (length ▸ several))
    rw [assembled] at commas
    exact absurd commas (Nat.ne_of_lt fewer)
  · have only : (identifierItems sections.columns).eraseIdx index = [] := by
      apply List.eq_nil_of_length_eq_zero
      rw [List.length_eraseIdx_of_lt inside]
      omega
    rw [assembled, only] at same
    rw [divide.columns_of_assemble located trimmed normalized same] at inside
    exact absurd inside (Nat.not_lt_zero index)

/-! ## Removing the name again -/

/-- Whether an identifier is a name, letter case aside. -/
def named (name identifier : Text) : Bool :=
  Text.lowerCase (Quoted.identifierName identifier) == name.lowerCase

theorem columnIndex?_eq_none_iff (columns : List Text) (name : Text) :
    columnIndex? columns name = none ↔ ∀ column ∈ columns, named name column = false :=
  List.findIdx?_eq_none_iff

/-- Without the first column of a name a list lacks the column that is found. -/
theorem eraseP_named (columns : List Text) (name : Text) :
    columns.eraseP (named name) =
      match columnIndex? columns name with
      | none => columns
      | some index => columns.eraseIdx index :=
  List.eraseP_eq_eraseIdx

/-- A statement without a column: it is no INSERT INTO, or no item of its column list has the
name. -/
def Lacks (statement column : Text) : Prop :=
  locateColumns statement column = .ok none ∨
    ∃ columnList, locateColumns statement column = .ok (some columnList) ∧
      ∀ item ∈ identifierItems (columnList.content statement), named column item = false

/-- Removing a column that a statement lacks trims the statement and rewrites its dates. -/
theorem removeColumn_of_lacks
    (lacks : Lacks statement column)
    (trimmed : statement.trim = statement)
    (normalized : ∀ columnList, locateColumns statement column = .ok (some columnList) →
      DateLiteral.normalize statement = statement) :
    removeColumn statement column = .ok statement := by
  rcases lacks with absent | ⟨columnList, located, others⟩
  · simp only [removeColumn, trimmed, absent, bind, Except.bind]
    rfl
  · have place := (columnIndex?_eq_none_iff _ column).mpr others
    simp only [removeColumn, trimmed, located, bind, Except.bind, place,
      normalized columnList located]
    rfl

/-- What removal returns is what removing the column again returns, if and only if it lacks the
column. -/
theorem removeColumn_self_iff (removed : removeColumn statement column = .ok result) :
    removeColumn result column = .ok result ↔ Lacks result column := by
  have trimmed := trim_of_removeColumn removed
  constructor
  · intro again
    rcases removeColumn_cases again with
      ⟨absent, -⟩ | ⟨columnList, located, ⟨missing, -⟩ | ⟨index, found⟩⟩
    · rw [trimmed] at absent
      exact .inl absent
    · rw [trimmed] at located missing
      exact .inr ⟨columnList, located, (columnIndex?_eq_none_iff _ column).mp missing⟩
    · rw [trimmed] at located found
      have normalized := normalize_of_removeColumn removed located
      exact absurd again (removeColumn_ne_self located found trimmed normalized)
  · intro lacks
    exact removeColumn_of_lacks lacks trimmed fun _ => normalize_of_removeColumn removed

namespace Written

theorem lacks_iff_of_hasLists
    {columns values : List Text}
    (lists : HasLists statement columns values)
    (column : Text) :
    Lacks statement column ↔ ∀ item ∈ columns, named column item = false := by
  obtain ⟨columnList, -, located, -, rfl, -⟩ := lists column
  constructor
  · rintro (absent | ⟨other, found, others⟩)
    · rw [located] at absent
      cases absent
    · rw [located] at found
      cases found
      exact others
  · exact fun others => .inr ⟨columnList, located, others⟩

variable (insert : Written)

/-- Of a written INSERT the columns that are left are all but the first of the name. -/
theorem hasLists_of_removeColumn (removed : removeColumn insert.text column = .ok result) :
    ∃ values, HasLists result
      (((insert.columns.map Part.text).eraseP (named column)).map DateLiteral.normalize) values := by
  rw [removeColumn_eq] at removed
  rw [eraseP_named]
  cases place : columnIndex? (insert.columns.map Part.text) column with
  | none =>
    rw [place] at removed
    obtain rfl := Except.ok.inj removed
    refine ⟨insert.stripped.normalized.values.map Part.text, ?_⟩
    dsimp only
    rw [trim_text, ← body_normalized, ← insert.map_text_columns_normalized]
    exact insert.stripped.normalized.hasLists_body
  | some index =>
    rw [place] at removed
    dsimp only at removed
    split at removed
    · obtain rfl := Except.ok.inj removed
      exact ⟨_, insert.hasLists_normalize_without index⟩
    · cases removed

end Written

/-- Removing a column again returns the same statement if and only if it lacks the column.  It
does so, for a written INSERT, if and only if no column but the first of the name has that name
once the dates in it are rewritten. -/
theorem removeColumn_again_iff (removed : removeColumn statement column = .ok result) :
    (removeColumn result column = .ok result ↔ Lacks result column) ∧
      ∀ insert : Written, insert.text = statement →
        (removeColumn result column = .ok result ↔
          ∀ other ∈ (insert.columns.map Part.text).eraseP (named column),
            named column (DateLiteral.normalize other) = false) := by
  have again := removeColumn_self_iff removed
  refine ⟨again, ?_⟩
  rintro insert rfl
  obtain ⟨values, lists⟩ := insert.hasLists_of_removeColumn removed
  rw [again, Written.lacks_iff_of_hasLists lists]
  exact List.forall_mem_map

/-- Of two columns whose names differ in their case, the first is removed. -/
theorem removeColumn_again_iff_of_two_names :
    let statement : Text := "INSERT INTO T (\"Id\", \"ID\", B) VALUES (1, 2, 3)".toList
    let column : Text := ['I', 'D']
    let result : Text := "INSERT INTO T (\"ID\", B) VALUES (2, 3)".toList
    removeColumn statement column = .ok result ∧
      (removeColumn result column = .ok result ↔ Lacks result column) ∧
      ∀ insert : Written, insert.text = statement →
        (removeColumn result column = .ok result ↔
          ∀ other ∈ (insert.columns.map Part.text).eraseP (named column),
            named column (DateLiteral.normalize other) = false) := by
  intro statement column result
  have removed : removeColumn statement column = .ok result := by decide +kernel
  exact ⟨removed, removeColumn_again_iff removed⟩

/-- The second of them is removed when the name is removed again. -/
theorem removeColumn_removes_twice :
    let statement : Text := "INSERT INTO T (\"Id\", \"ID\", B) VALUES (1, 2, 3)".toList
    let once : Text := "INSERT INTO T (\"ID\", B) VALUES (2, 3)".toList
    let twice : Text := "INSERT INTO T (B) VALUES (3)".toList
    removeColumn statement ['I', 'D'] = .ok once ∧ removeColumn once ['I', 'D'] = .ok twice ∧
      twice ≠ once := by
  decide +kernel

end Insert
end SqlDump
