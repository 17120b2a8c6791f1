import SqlDump.Insert.Column
import SqlDump.Proofs.InsertParts

/-!
# Written INSERT statements

A written INSERT is put together from its parts: the words INSERT INTO, a table, a list of
columns, the word VALUES, a list of values and whatever trails it.  The landmarks of its text are
the places where its parts meet, and the items of its two lists are the columns and the values it
was put together from.
-/

namespace SqlDump
namespace Insert

open Unicode (isWhiteSpace)

/-- A keyword in any case of its letters. -/
abbrev Spelled (keyword : Text) := { word : Text // Text.sameLetters keyword word = true }

/-- An INSERT statement by its parts. -/
structure Written where
  lead : Blank
  insertWord : Spelled Keyword.insert
  insertGap : Blank
  insertGap_ne_nil : insertGap.val ≠ []
  intoWord : Spelled Keyword.into
  table : Part IsTable
  /-- Without white space behind it, the word INTO must end where the table begins. -/
  apart : table.before.val = [] → (table.text.head?).any Unicode.isWordCharacter = false
  columns : List (Part IsColumn)
  between : Blank
  valuesWord : Spelled Keyword.values
  valuesGap : Blank
  values : List (Part IsValue)
  trailing : Text

/-- Once the word VALUES is found, the list behind it is located if its parentheses match. -/
theorem locateValues_append
    {front word list trailing : Text}
    {start : Nat}
    (found : Keyword.locate? Keyword.values (front ++ (word ++ '(' :: (list ++ ')' :: trailing)))
      start = some front.byteLength)
    (noParenthesis : ∀ char ∈ word, (char == '(') = false)
    (balanced : Parenthesis.tracker.Quiet (.plain, 0) list (.plain, 0)) :
    locateValues (front ++ (word ++ '(' :: (list ++ ')' :: trailing))) start =
      .ok ⟨front.byteLength, ⟨Text.byteLength (front ++ word),
        Text.byteLength (front ++ word) + 1 + list.byteLength⟩⟩ := by
  have closing := Parenthesis.closing_append (front ++ word) list trailing balanced
  rw [locateValues, found]
  simp only [Text.dropBytes_byteLength_append,
    Text.position?_append_cons _ word '(' _ noParenthesis rfl, ← Text.byteLength_append]
  rw [← List.append_assoc, closing]
  rfl

namespace Written

variable (insert : Written)

/-- The statement up to its table. -/
def header : Text :=
  insert.insertWord.val ++ insert.insertGap.val ++ insert.intoWord.val ++
    insert.table.before.val ++ insert.table.text

/-- What stands in front of the column list. -/
def beforeColumns : Text :=
  insert.header ++ insert.table.after.val

/-- What stands in front of the word VALUES. -/
def beforeClause : Text :=
  insert.beforeColumns ++ '(' :: (listed insert.columns ++ ')' :: insert.between.val)

/-- What stands in front of the value list. -/
def beforeValues : Text :=
  insert.beforeClause ++ insert.valuesWord.val ++ insert.valuesGap.val

/-- The statement without the white space in front of it. -/
def body : Text :=
  insert.beforeValues ++ '(' :: (listed insert.values ++ ')' :: insert.trailing)

/-- The statement. -/
def text : Text :=
  insert.lead.val ++ insert.body

/-- The parentheses around the columns. -/
def columnList : ListSpan where
  opening := insert.beforeColumns.byteLength
  closing := insert.beforeColumns.byteLength + 1 + (listed insert.columns).byteLength

/-- The VALUES clause. -/
def clause : ValuesClause where
  keyword := insert.beforeClause.byteLength
  list :=
    { opening := insert.beforeValues.byteLength
      closing := insert.beforeValues.byteLength + 1 + (listed insert.values).byteLength }

/-- The VALUES clause of the statement behind some text. -/
def clauseBehind (front : Text) : ValuesClause where
  keyword := (front ++ insert.beforeClause).byteLength
  list :=
    { opening := (front ++ insert.beforeValues).byteLength
      closing := (front ++ insert.beforeValues).byteLength + 1 + (listed insert.values).byteLength }

/-! ## The header -/

theorem afterWord?_append
    {keyword word : Text}
    (same : Text.sameLetters keyword word = true)
    (rest : Text) :
    afterWord? keyword (word ++ rest) = some rest := by
  induction keyword generalizing word with
  | nil =>
    rw [(Text.sameLetters_nil_iff word).mp same]
    rfl
  | cons capital keyword inductionHypothesis =>
    obtain ⟨char, later, rfl, sameFirst, sameRest⟩ := (Text.sameLetters_cons_iff _ _ _).mp same
    have form : isFormOf capital char = true := by
      rw [isFormOf, sameFirst, Bool.true_or]
    rw [List.cons_append, afterWord?, if_pos form, inductionHypothesis sameRest]

/-- A keyword starts with a letter of its own. -/
theorem exists_cons_of_sameLetters
    {capital : Char}
    {keyword word : Text}
    (same : Text.sameLetters (capital :: keyword) word = true)
    (letter : capital.isAlpha = true) :
    ∃ char rest, word = char :: rest ∧ isWhiteSpace char = false := by
  obtain ⟨char, rest, whole, sameFirst, -⟩ := (Text.sameLetters_cons_iff _ _ _).mp same
  have isLetter := Text.isAlpha_of_sameLetter sameFirst letter
  exact ⟨char, rest, whole, Text.isWhiteSpace_of_isAlpha isLetter⟩

/-- What stands behind the word INTO starts no longer word. -/
theorem head?_target (back : Text) :
    ((insert.table.before.val ++ insert.table.text ++ back).head?).any
      Unicode.isWordCharacter = false := by
  cases before : insert.table.before.val with
  | nil =>
    obtain ⟨char, rest, table⟩ := List.exists_cons_of_ne_nil insert.table.isKind.nonempty
    have apart := insert.apart before
    rw [table] at apart ⊢
    exact apart
  | cons char rest =>
    have white := isWhiteSpace_of_mem insert.table.before char (by simp [before])
    exact Unicode.isWordCharacter_of_isWhiteSpace white

theorem afterHeader?_header (back : Text) :
    afterHeader? (insert.header ++ back) =
      some (insert.table.before.val ++ insert.table.text ++ back) := by
  obtain ⟨char, rest, into, solid⟩ := exists_cons_of_sameLetters insert.intoWord.property rfl
  have behindSpace (target : Text) :
      (insert.insertGap.val ++ (insert.intoWord.val ++ target)).trimStart =
        insert.intoWord.val ++ target := by
    rw [Text.trimStart_append_of_isBlank _ _ insert.insertGap.property, into, List.cons_append,
      Text.trimStart_cons_of_not _ _ solid]
  have gap : 0 < insert.insertGap.val.length := List.length_pos_iff.mpr insert.insertGap_ne_nil
  have boundary := insert.head?_target back
  simp only [header, List.append_assoc] at boundary ⊢
  simp only [afterHeader?, afterWord?_append insert.insertWord.property, Option.bind_eq_bind,
    Option.bind_some, behindSpace, List.length_append]
  rw [if_neg (by omega), afterWord?_append insert.intoWord.property, Option.bind_some, boundary]
  rfl

/-! ## The column list -/

theorem body_eq_columns :
    insert.body = insert.beforeColumns ++ '(' :: (listed insert.columns ++ ')' ::
      (insert.between.val ++ insert.valuesWord.val ++ insert.valuesGap.val ++
        '(' :: (listed insert.values ++ ')' :: insert.trailing))) := by
  simp [body, beforeValues, beforeClause]

theorem content_append (front inner back : Text) :
    ListSpan.content ⟨front.byteLength, front.byteLength + 1 + inner.byteLength⟩
      (front ++ '(' :: (inner ++ ')' :: back)) = inner := by
  have size : '('.utf8Size = 1 := rfl
  have slice := Text.slice_append (front ++ ['(']) inner (')' :: back)
  simpa [ListSpan.content, size] using slice

/-- The column list is located where it was written. -/
theorem locateColumns_body (column : Text) :
    locateColumns insert.body column = .ok (some insert.columnList) := by
  have table : TableText insert.table.text := insert.table.isKind.written
  have quiet : tableTracker.Quiet false
      (insert.table.before.val ++ insert.table.text ++ insert.table.after.val) false :=
    tableTracker_rests.quiet_padded insert.table table.quiet
  have target (rest : Text) : afterHeader? (insert.beforeColumns ++ rest) =
      some (insert.table.before.val ++ insert.table.text ++ insert.table.after.val ++ rest) := by
    rw [beforeColumns, List.append_assoc, afterHeader?_header]
    simp
  -- the search starts behind the word INTO, as far in as the target is shorter than the statement
  have length (rest : Text) :
      (insert.beforeColumns ++ rest).byteLength -
          (insert.table.before.val ++ insert.table.text ++ insert.table.after.val ++
            rest).byteLength +
        (insert.table.before.val ++ insert.table.text ++ insert.table.after.val).byteLength =
      insert.beforeColumns.byteLength := by
    simp only [beforeColumns, header, Text.byteLength_append]
    omega
  rw [body_eq_columns, locateColumns, target]
  simp only [openingFrom?_eq_firstFrom?]
  rw [Tracker.firstFrom?_append_cons quiet rfl, length]
  simp only [Parenthesis.closing_append _ _ _ (quiet_columns insert.columns)]
  rfl

theorem content_columnList :
    insert.columnList.content insert.body = listed insert.columns := by
  rw [body_eq_columns]
  exact content_append _ _ _

/-! ## The value list -/

/-- The search for VALUES passes over what stands between the lists. -/
theorem passes_between : ∀ char ∈ ')' :: insert.between.val,
    char ≠ '\'' ∧ char ≠ '"' ∧ Text.sameLetter 'V' char = false := by
  intro char member
  rcases List.mem_cons.mp member with rfl | member
  · decide
  · have white := isWhiteSpace_of_mem insert.between char member
    obtain ⟨noString, noIdentifier⟩ := ne_quote_of_isWhiteSpace white
    exact ⟨noString, noIdentifier, Text.sameLetter_of_isWhiteSpace rfl white⟩

theorem exists_getLast?_between :
    ∃ char, (')' :: insert.between.val).getLast? = some char ∧
      Keyword.continuesWord char = false := by
  refine ⟨insert.between.val.getLast?.getD ')', by rw [List.getLast?_cons], ?_⟩
  cases last : insert.between.val.getLast? with
  | none => rfl
  | some char =>
    have white := isWhiteSpace_of_mem insert.between char (List.mem_of_getLast? last)
    exact Keyword.continuesWord_of_isWhiteSpace white

theorem endsBeside_valuesGap (rest : Text) :
    Keyword.endsBeside (insert.valuesGap.val ++ '(' :: rest).head? = true := by
  cases gap : insert.valuesGap.val with
  | nil => rfl
  | cons char later =>
    have white := isWhiteSpace_of_mem insert.valuesGap char (by simp [gap])
    simp [Keyword.endsBeside, Keyword.continuesWord_of_isWhiteSpace white]

/-- The word VALUES is found behind the column list. -/
theorem locate?_body :
    Keyword.locate? Keyword.values insert.body insert.columnList.closing =
      some insert.beforeClause.byteLength := by
  have start : insert.columnList.closing =
      (insert.beforeColumns ++ '(' :: listed insert.columns).byteLength := by
    have size : '('.utf8Size = 1 := rfl
    simp only [columnList, Text.byteLength_append, Text.byteLength_cons, size]
    omega
  have place : (insert.beforeColumns ++ '(' :: listed insert.columns).byteLength +
      Text.byteLength (')' :: insert.between.val) = insert.beforeClause.byteLength := by
    simp only [beforeClause, Text.byteLength_append, Text.byteLength_cons]
    omega
  have whole : insert.body =
      (insert.beforeColumns ++ '(' :: listed insert.columns) ++
        ((')' :: insert.between.val) ++ (insert.valuesWord.val ++
          (insert.valuesGap.val ++ '(' :: (listed insert.values ++ ')' :: insert.trailing)))) := by
    simp [body, beforeValues, beforeClause]
  rw [whole, start, ← place]
  exact Keyword.locate?_append insert.valuesWord.property rfl _ _ _ insert.passes_between
    insert.exists_getLast?_between (insert.endsBeside_valuesGap _)

theorem noParenthesis_of_mem : ∀ char ∈ insert.valuesWord.val ++ insert.valuesGap.val,
    (char == '(') = false := by
  intro char member
  rw [beq_eq_false_iff_ne]
  rintro rfl
  rcases List.mem_append.mp member with member | member
  · have letters := Text.isAlpha_of_sameLetters insert.valuesWord.property
      (List.all_eq_true.mp rfl)
    exact absurd (letters _ member) (by decide)
  · exact absurd (isWhiteSpace_of_mem insert.valuesGap _ member) (by decide)

/-- Once the word VALUES is found, the value list is located behind it. -/
theorem locateValues_of_locate?
    (front : Text)
    {start : Nat}
    (found : Keyword.locate? Keyword.values (front ++ insert.body) start =
      some (front ++ insert.beforeClause).byteLength) :
    locateValues (front ++ insert.body) start = .ok (insert.clauseBehind front) := by
  have split : front ++ insert.body = (front ++ insert.beforeClause) ++
      ((insert.valuesWord.val ++ insert.valuesGap.val) ++
        '(' :: (listed insert.values ++ ')' :: insert.trailing)) := by
    simp [body, beforeValues]
  rw [split] at found ⊢
  rw [locateValues_append found insert.noParenthesis_of_mem (quiet_values insert.values)]
  simp [clauseBehind, beforeValues]

/-- The value list is located where it was written. -/
theorem locateValues_body :
    locateValues insert.body insert.columnList.closing = .ok insert.clause :=
  insert.locateValues_of_locate? [] insert.locate?_body

theorem content_clauseBehind (front : Text) :
    (insert.clauseBehind front).list.content (front ++ insert.body) = listed insert.values := by
  rw [body, ← List.append_assoc]
  exact content_append _ _ _

theorem content_clause : insert.clause.list.content insert.body = listed insert.values :=
  insert.content_clauseBehind []

end Written
end Insert
end SqlDump
