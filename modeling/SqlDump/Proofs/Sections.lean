import SqlDump.Insert.Column
import SqlDump.Proofs.CheckedCuts
import SqlDump.Proofs.ValuesClause

/-!
# The sections of an INSERT statement

The landmarks of a statement cut it into sections: its two lists, and what stands in front of them,
between them and behind them.  The lists are known by their parentheses, so that any text may stand
between the column list and the word VALUES, and between the word and its list.
-/

namespace SqlDump

namespace Text

/-- Two front parts of a text that are as long as each other are the same. -/
theorem append_inj_of_byteLength
    {front back other rest : Text}
    (same : front ++ back = other ++ rest)
    (length : front.byteLength = other.byteLength) :
    front = other ∧ back = rest := by
  have fronts := congrArg (takeBytes · front.byteLength) same
  have backs := congrArg (dropBytes · front.byteLength) same
  rw [takeBytes_byteLength_append, length, takeBytes_byteLength_append] at fronts
  rw [dropBytes_byteLength_append, length, dropBytes_byteLength_append] at backs
  exact ⟨fronts, backs⟩

/-- The longer of two front parts of a text goes on from the shorter one. -/
theorem exists_append_of_append_eq
    {front back other rest : Text}
    (same : front ++ back = other ++ rest)
    (shorter : front.byteLength ≤ other.byteLength) :
    ∃ middle, other = front ++ middle ∧ back = middle ++ rest := by
  rcases List.append_eq_append_iff.mp same with ⟨middle, longer, behind⟩ | ⟨middle, longer, behind⟩
  · exact ⟨middle, longer, behind⟩
  · have length : front.byteLength = other.byteLength := by
      rw [longer, byteLength_append] at shorter ⊢
      omega
    obtain ⟨rfl, rfl⟩ := append_inj_of_byteLength same length
    exact ⟨[], (List.append_nil front).symm, rfl⟩

/-- A front part that has nothing of a kind is passed over. -/
theorem position?_append
    {accepts : Char → Bool}
    {front : Text}
    (absent : ∀ other ∈ front, accepts other = false)
    (back : Text) :
    position? accepts (front ++ back) = (position? accepts back).map (front.byteLength + ·) := by
  induction front with
  | nil => simp
  | cons char rest inductionHypothesis =>
    obtain ⟨refused, others⟩ := List.forall_mem_cons.mp absent
    rw [List.cons_append, position?, refused, if_neg Bool.false_ne_true,
      inductionHypothesis others, Option.map_map]
    simp [Function.comp_def, Nat.add_assoc]

end Text

namespace Insert

/-- The parts of a statement around its landmarks. -/
structure Sections where
  /-- What stands in front of the column list. -/
  head : Text
  /-- The column list, between its parentheses. -/
  columns : Text
  /-- What stands between the column list and the keyword. -/
  between : Text
  /-- The word VALUES, in any case. -/
  keyword : Text
  /-- What stands between the keyword and its list. -/
  gap : Text
  /-- The value list, between its parentheses. -/
  values : Text
  /-- What stands behind the value list. -/
  trailing : Text

namespace Sections

/-- The text from the keyword on. -/
def clauseText (sections : Sections) : Text :=
  sections.keyword ++ (sections.gap ++ '(' :: (sections.values ++ ')' :: sections.trailing))

/-- The statement with the given sections. -/
def text (sections : Sections) : Text :=
  sections.head ++ '(' :: (sections.columns ++ ')' :: (sections.between ++ sections.clauseText))

/-- The sections that a column list and a VALUES clause cut a statement into. -/
structure Divide
    (sections : Sections)
    (statement : Text)
    (columnList : ListSpan)
    (clause : ValuesClause) : Prop where
  text_eq : statement = sections.text
  columns_opening : columnList.opening = sections.head.byteLength
  columns_closing : columnList.closing = columnList.opening + 1 + sections.columns.byteLength
  keyword_eq : clause.keyword = columnList.closing + 1 + sections.between.byteLength
  isKeyword : Text.sameLetters Keyword.values sections.keyword = true
  values_opening :
    clause.list.opening = clause.keyword + sections.keyword.byteLength + sections.gap.byteLength
  values_closing : clause.list.closing = clause.list.opening + 1 + sections.values.byteLength

end Sections

variable {statement column : Text} {columnList : ListSpan} {clause : ValuesClause}

/-- Wherever its search starts, a VALUES clause stands between what is in front of its keyword and
what is behind its list. -/
theorem exists_append_of_locateValues
    {start : Nat}
    (located : locateValues statement start = .ok clause) :
    ∃ front keyword gap values trailing : Text,
      statement = front ++ (keyword ++ (gap ++ '(' :: (values ++ ')' :: trailing))) ∧
        start ≤ clause.keyword ∧ clause.keyword = front.byteLength ∧
        Text.sameLetters Keyword.values keyword = true ∧
        clause.list.opening = clause.keyword + keyword.byteLength + gap.byteLength ∧
        clause.list.closing = clause.list.opening + 1 + values.byteLength := by
  obtain ⟨found, ⟨distance, opened, listOpening⟩, matched⟩ := landmarks_of_locateValues located
  rw [Keyword.locate?, if_neg (by decide)] at found
  obtain ⟨front, back, split, place, behind, begun⟩ := Keyword.begins_of_locateFrom? found
  rw [Nat.zero_add] at place
  simp only [Keyword.begins, Bool.and_eq_true] at begun
  obtain ⟨keyword, later, rfl, same⟩ := Text.exists_append_of_startsWith begun.1.1
  have noOpening : ∀ char ∈ keyword, (char == '(') = false := by
    intro char member
    rw [beq_eq_false_iff_ne]
    rintro rfl
    exact absurd (Text.isAlpha_of_sameLetters same isAlpha_of_mem_values _ member) (by decide)
  rw [split, place, Text.dropBytes_byteLength_append, Text.position?_append noOpening] at opened
  obtain ⟨inside, gapFound, rfl⟩ := Option.map_eq_some_iff.mp opened
  obtain ⟨gap, mark, behindMark, rfl, rfl, isMark, -⟩ := Text.exists_append_of_position? gapFound
  obtain rfl : mark = '(' := by simpa using isMark
  -- the parenthesis that is found is the one that is closed
  obtain ⟨head, values, trailing, whole, opening, closing, -⟩ :=
    Parenthesis.exists_append_of_closing matched
  have cut : (front ++ (keyword ++ gap)) ++ '(' :: behindMark =
      head ++ '(' :: (values ++ ')' :: trailing) := by
    rw [← whole, split]
    simp
  have length : Text.byteLength (front ++ (keyword ++ gap)) = head.byteLength := by
    simp only [Text.byteLength_append]
    omega
  obtain ⟨rfl, -⟩ := Text.append_inj_of_byteLength cut length
  exact ⟨front, keyword, gap, values, trailing, by rw [whole]; simp, behind, place, same,
    by omega, by omega⟩

/-- The located lists cut a statement into sections. -/
theorem exists_sections
    (columns : locateColumns statement column = .ok (some columnList))
    (values : locateValues statement columnList.closing = .ok clause) :
    ∃ sections : Sections, sections.Divide statement columnList clause := by
  obtain ⟨head, columns, rest, whole, opening, closing, -⟩ :=
    Parenthesis.exists_append_of_closing (closing_of_locateColumns columns)
  obtain ⟨front, keyword, gap, values, trailing, split, behind, place, same, listOpening,
    listClosing⟩ := exists_append_of_locateValues values
  have start : Text.byteLength (head ++ '(' :: columns) = columnList.closing := by
    have size : '('.utf8Size = 1 := rfl
    rw [closing, Text.byteLength_append, Text.byteLength_cons, size, Nat.add_assoc]
  have merged : (head ++ '(' :: columns) ++ ')' :: rest =
      front ++ (keyword ++ (gap ++ '(' :: (values ++ ')' :: trailing))) := by
    rw [← split, whole]
    simp
  obtain ⟨middle, rfl, after⟩ := Text.exists_append_of_append_eq merged (by omega)
  -- the word VALUES does not start at the closing parenthesis
  obtain ⟨between, rfl⟩ : ∃ between, middle = ')' :: between := by
    cases middle with
    | nil =>
      obtain ⟨char, word, rfl, sameFirst, -⟩ := (Text.sameLetters_cons_iff 'V' _ _).mp same
      obtain rfl : ')' = char := (List.cons.inj after).1
      exact absurd sameFirst (by decide)
    | cons char between => exact ⟨between, by rw [(List.cons.inj after).1]⟩
  have size : ')'.utf8Size = 1 := rfl
  rw [Text.byteLength_append, Text.byteLength_cons, size, start] at place
  refine ⟨⟨head, columns, between, keyword, gap, values, trailing⟩, ?_, opening, ?_, ?_, same,
    listOpening, listClosing⟩
  · rw [split]
    simp [Sections.text, Sections.clauseText]
  · rw [closing, opening]
  · rw [place, Nat.add_assoc]

namespace Sections

variable {sections : Sections}

/-- What stands in front of the value list. -/
def beforeValues (sections : Sections) : Text :=
  sections.head ++ '(' :: (sections.columns ++ ')' ::
    (sections.between ++ (sections.keyword ++ sections.gap)))

theorem text_eq_values (sections : Sections) :
    sections.text =
      sections.beforeValues ++ '(' :: (sections.values ++ ')' :: sections.trailing) := by
  simp [text, clauseText, beforeValues]

namespace Divide

theorem values_opening_eq (divide : sections.Divide statement columnList clause) :
    clause.list.opening = sections.beforeValues.byteLength := by
  have opening : '('.utf8Size = 1 := rfl
  have closing : ')'.utf8Size = 1 := rfl
  have columnsOpening := divide.columns_opening
  have columnsClosing := divide.columns_closing
  have keyword := divide.keyword_eq
  have valuesOpening := divide.values_opening
  simp only [beforeValues, Text.byteLength_append, Text.byteLength_cons, opening, closing]
  omega

/-- The column list is what stands between its parentheses. -/
theorem content_columns (divide : sections.Divide statement columnList clause) :
    columnList.content statement = sections.columns := by
  rw [ListSpan.content, divide.columns_closing, divide.columns_opening, divide.text_eq]
  exact Text.slice_of_cut? (Text.cut?_between _ _ _ '(' ')' rfl)

/-- The value list is what stands between its parentheses. -/
theorem content_values (divide : sections.Divide statement columnList clause) :
    clause.list.content statement = sections.values := by
  rw [ListSpan.content, divide.values_closing, divide.values_opening_eq, divide.text_eq,
    text_eq_values]
  exact Text.slice_of_cut? (Text.cut?_between _ _ _ '(' ')' rfl)

theorem takeBytes_head (divide : sections.Divide statement columnList clause) :
    statement.takeBytes columnList.opening = sections.head := by
  rw [divide.columns_opening, divide.text_eq]
  exact Text.takeBytes_byteLength_append _ _

theorem dropBytes_trailing (divide : sections.Divide statement columnList clause) :
    statement.dropBytes (clause.list.closing + 1) = sections.trailing := by
  have split : sections.text =
      (sections.beforeValues ++ '(' :: (sections.values ++ [')'])) ++ sections.trailing := by
    simp [text_eq_values]
  have place : clause.list.closing + 1 =
      Text.byteLength (sections.beforeValues ++ '(' :: (sections.values ++ [')'])) := by
    have opening : '('.utf8Size = 1 := rfl
    have closing : ')'.utf8Size = 1 := rfl
    have valuesOpening := divide.values_opening_eq
    have valuesClosing := divide.values_closing
    simp only [Text.byteLength_append, Text.byteLength_cons, Text.byteLength_nil, opening, closing]
    omega
  rw [divide.text_eq, split, place, Text.dropBytes_byteLength_append]

end Divide
end Sections
end Insert
end SqlDump
