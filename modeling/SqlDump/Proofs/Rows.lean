import SqlDump.Insert.Prepared
import SqlDump.Proofs.KeywordSearch
import SqlDump.Proofs.Literals
import SqlDump.Proofs.WrittenInsert

/-!
# Rows written as INSERT statements

A row of null values, integers and strings is written as an INSERT statement.  The statement is a
written INSERT, in which the word VALUES is found behind the column list whatever the names of the
table and the columns are.  Preparing it yields the values of the row.
-/

namespace SqlDump

/-- The name of a table or a column. -/
inductive Name where
  /-- Any name, in double quotes. -/
  | quoted (name : Text)
  /-- A word other than VALUES. -/
  | bare (word : Text)
      (nonempty : word ≠ [])
      (continues : ∀ char ∈ word, Keyword.continuesWord char = true)
      (other : Text.sameLetters Keyword.values word = false)

/-- A value of a row. -/
inductive Cell where
  | null
  | integer (value : Int) (fits : Integer.FitsInt64 value)
  | string (text : Text)

/-- A row of values for some columns of a table. -/
structure Row where
  table : Name
  columns : List Name
  cells : List Cell

namespace Name

/-- A name as it is written. -/
def text : Name → Text
  | .quoted name => Quoted.quote '"' name
  | .bare word _ _ _ => word

end Name

namespace Cell

/-- A value as it is written. -/
def text : Cell → Text
  | .null => Keyword.null
  | .integer value _ => Integer.toText value
  | .string text => Quoted.quote '\'' text

/-- The binding of a value. -/
def binding (policy : LargeTextPolicy) : Cell → Binding
  | .null => .null
  | .integer value _ => .long value
  | .string text => if policy.isOversized text then .largeText text else .text text

end Cell

namespace Row

/-- A list in parentheses, with white space behind each comma. -/
def list (gap : Insert.Blank) (items : List Text) : Text :=
  '(' :: (List.intercalate (',' :: gap.val) items ++ [')'])

/-- What is written in front of the word VALUES. -/
def front (gap : Insert.Blank) (row : Row) : Text :=
  Keyword.insert ++ ' ' :: Keyword.into ++ ' ' :: row.table.text ++
    ' ' :: list gap (row.columns.map Name.text) ++ [' ']

/-- A row as it is written. -/
def text (gap : Insert.Blank) (row : Row) : Text :=
  row.front gap ++ Keyword.values ++ ' ' :: list gap (row.cells.map Cell.text)

/-- The statement of a row with placeholders, and the values of the row. -/
def prepared (policy : LargeTextPolicy) (gap : Insert.Blank) (row : Row) : PreparedInsert where
  statement := row.front gap ++ Keyword.values ++
    ' ' :: list Insert.Blank.space (List.replicate row.cells.length ['?'])
  bindings := row.cells.map (Cell.binding policy)

/-- A script with a line for each row. -/
def script (gap : Insert.Blank) (rows : List Row) : Text :=
  rows.flatMap fun row => row.text gap ++ [';', '\n']

end Row

/-! ## Names and values -/

namespace Name

open SqlDump.Insert

theorem isColumn (name : Name) : IsColumn name.text := by
  cases name with
  | quoted name => exact .quoted name
  | bare word nonempty continues other =>
    refine .bare nonempty fun char member => ?_
    have inWord := continues char member
    exact ⟨Keyword.isWhiteSpace_of_continuesWord inWord, isDelimiter_of_continuesWord inWord⟩

theorem isTable (name : Name) : IsTable name.text := by
  refine ⟨?_, name.isColumn.nonempty, name.isColumn.trimmed⟩
  cases name with
  | quoted name => simpa [text] using TableText.name name .nil
  | bare word nonempty continues other =>
    exact .of_forall fun char member => isDelimiter_of_continuesWord (continues char member)

/-- No name is taken for the word VALUES. -/
theorem passesOver
    (name : Name)
    (rest : Text)
    (ends : Keyword.endsBeside rest.head? = true) :
    Keyword.PassesOver Keyword.values name.text rest := by
  cases name with
  | quoted name => exact Keyword.passesOver_quote (.inr rfl) _ name rest
  | bare word nonempty continues other =>
    exact Keyword.passesOver_word (List.all_eq_true.mp rfl) continues other ends

end Name

namespace Cell

open SqlDump.Insert

theorem isValue (cell : Cell) : IsValue cell.text := by
  cases cell with
  | null =>
    have ordinary : ∀ char ∈ Keyword.null, isDelimiter char = false := by
      simp [Keyword.null, isDelimiter_eq_false]
    exact ⟨.of_forall ordinary, List.cons_ne_nil _ _, rfl⟩
  | integer value fits =>
    obtain ⟨char, digits, whole, -⟩ := Integer.exists_toText value
    refine ⟨.of_forall ?_, by simp [text, whole], Integer.trim_toText value⟩
    intro char member
    rcases Integer.eq_or_isDigit_of_mem_toText member with rfl | digit
    · rfl
    · exact isDelimiter_of_continuesWord (Keyword.continuesWord_of_isDigit digit)
  | string body =>
    refine ⟨?_, List.cons_ne_nil _ _, trim_quote '\'' body rfl⟩
    simpa [text] using ValueText.string body (.nil false)

/-- A written value stands for the value. -/
theorem bindValue_text (policy : LargeTextPolicy) (cell : Cell) :
    bindValue policy cell.text = .ok (cell.binding policy) := by
  cases cell with
  | null => exact bindValue_null policy
  | integer value fits => exact bindValue_toText policy fits
  | string text => exact bindValue_quote policy text

theorem bindAll_text (policy : LargeTextPolicy) (cells : List Cell) :
    bindAll policy (cells.map text) = .ok (cells.map (binding policy)) := by
  induction cells with
  | nil => rfl
  | cons cell rest inductionHypothesis =>
    rw [List.map_cons, bindAll, bindValue_text, inductionHypothesis]
    rfl

end Cell

/-! ## The statement of a row -/

namespace Row

open SqlDump.Insert

variable (gap : Blank) (row : Row)

/-- The statement of a row by its parts. -/
def written : Written where
  lead := Blank.empty
  insertWord := ⟨Keyword.insert, Text.sameLetters_self Keyword.insert⟩
  insertGap := Blank.space
  insertGap_ne_nil := List.cons_ne_nil _ _
  intoWord := ⟨Keyword.into, Text.sameLetters_self Keyword.into⟩
  table := ⟨Blank.space, row.table.text, row.table.isTable, Blank.space⟩
  apart := fun empty => absurd empty (List.cons_ne_nil _ _)
  columns := Part.spaced gap
    (row.columns.map fun name => ⟨Blank.empty, name.text, name.isColumn, Blank.empty⟩)
  between := Blank.space
  valuesWord := ⟨Keyword.values, Text.sameLetters_self Keyword.values⟩
  valuesGap := Blank.space
  values := Part.spaced gap
    (row.cells.map fun cell => ⟨Blank.empty, cell.text, cell.isValue, Blank.empty⟩)
  trailing := []

theorem listed_columns :
    listed (row.written gap).columns =
      List.intercalate (',' :: gap.val) (row.columns.map Name.text) := by
  rw [written, listed_spaced, List.map_map]
  rfl

theorem map_text_values :
    (row.written gap).values.map Part.text = row.cells.map Cell.text := by
  rw [written, Part.map_text_spaced, List.map_map]
  rfl

theorem listed_values :
    listed (row.written gap).values =
      List.intercalate (',' :: gap.val) (row.cells.map Cell.text) := by
  rw [written, listed_spaced, List.map_map]
  rfl

theorem beforeClause_written : (row.written gap).beforeClause = row.front gap := by
  rw [Written.beforeClause, listed_columns]
  simp [Written.beforeColumns, Written.header, written, front, list]

theorem body_written : (row.written gap).body = row.text gap := by
  rw [Written.body, Written.beforeValues, beforeClause_written, listed_values]
  simp [written, text, list]

/-- What stands in front of the end of the column list. -/
def names : Text :=
  Keyword.insert ++ [' '] ++ Keyword.into ++ [' '] ++ row.table.text ++ [' ', '('] ++
    List.intercalate (',' :: gap.val) (row.columns.map Name.text)

theorem names_append : row.names gap ++ [')', ' '] = row.front gap := by
  simp [names, front, list]

/-- A space or a parenthesis neither quotes nor starts the word VALUES. -/
theorem apart_of_mem {char : Char} (member : char ∈ ['(', ')', ' ']) :
    char ≠ '\'' ∧ char ≠ '"' ∧ Text.sameLetter 'V' char = false := by
  simp only [List.mem_cons, List.not_mem_nil, or_false] at member
  rcases member with rfl | rfl | rfl <;> decide

theorem passesOver_gap
    {front : Text}
    (rest : Text)
    (apart : ∀ char ∈ front, char ∈ ['(', ')', ' ']) :
    Keyword.PassesOver Keyword.values front rest :=
  Keyword.passesOver_of_forall _ rest fun char member => apart_of_mem (apart char member)

/-- The separator of a list neither quotes nor starts the word VALUES, and it ends words. -/
theorem separator_apart :
    (∀ char ∈ ',' :: gap.val,
      char ≠ '\'' ∧ char ≠ '"' ∧ Text.sameLetter 'V' char = false) ∧
      ∀ back, Keyword.endsBeside ((',' :: gap.val) ++ back).head? = true := by
  refine ⟨?_, fun back => rfl⟩
  intro char member
  rcases List.mem_cons.mp member with rfl | member
  · decide
  · have white := isWhiteSpace_of_mem gap char member
    obtain ⟨noString, noIdentifier⟩ := ne_quote_of_isWhiteSpace white
    exact ⟨noString, noIdentifier, Text.sameLetter_of_isWhiteSpace rfl white⟩

/-- No word in front of the value list is taken for the word VALUES. -/
theorem passesOver_names
    (rest : Text)
    (ends : Keyword.endsBeside rest.head? = true) :
    Keyword.PassesOver Keyword.values (row.names gap) rest := by
  have letters : ∀ letter ∈ Keyword.values, letter.isAlpha = true := List.all_eq_true.mp rfl
  obtain ⟨apart, endsName⟩ := separator_apart gap
  refine .append (.append (.append (.append (.append (.append ?insertWord ?gap) ?intoWord) ?gap')
    ?table) ?opening) ?columns
  case insertWord => exact Keyword.passesOver_word letters (List.all_eq_true.mp rfl) rfl rfl
  case gap => exact passesOver_gap _ (by simp)
  case intoWord => exact Keyword.passesOver_word letters (List.all_eq_true.mp rfl) rfl rfl
  case gap' => exact passesOver_gap _ (by simp)
  case table => exact row.table.passesOver _ rfl
  case opening => exact passesOver_gap _ (by simp)
  case columns =>
    refine Keyword.passesOver_intercalate apart endsName ends ?_
    rw [List.forall_mem_map]
    exact fun name _ => name.passesOver

/-- The word VALUES of a row is found. -/
theorem locate?_text :
    Keyword.locate? Keyword.values (row.text gap) 0 = some (row.front gap).byteLength := by
  have whole : row.text gap = row.names gap ++ ([')', ' '] ++
      (Keyword.values ++ ' ' :: list gap (row.cells.map Cell.text))) := by
    rw [text, ← names_append]
    simp
  have place : (row.names gap).byteLength + Text.byteLength [')', ' '] =
      (row.front gap).byteLength := by
    rw [← names_append, Text.byteLength_append]
  rw [whole, ← place]
  refine Keyword.locate?_of_passesOver rfl rfl (row.passesOver_names gap _ rfl) ?_
    ⟨' ', rfl, rfl⟩ rfl
  exact fun char member => apart_of_mem (List.mem_cons_of_mem _ member)

/-- Preparing the statement of a row yields its values, in order. -/
theorem prepare_text (policy : LargeTextPolicy) :
    prepare policy (row.text gap) = .ok (row.prepared policy gap) := by
  have located : locateValues (row.text gap) 0 = .ok (row.written gap).clause := by
    rw [← body_written]
    refine Written.locateValues_of_locate? (row.written gap) [] ?_
    rw [List.nil_append, List.nil_append, body_written, beforeClause_written]
    exact row.locate?_text gap
  have items : valueItems ((row.written gap).clause.list.content (row.text gap)) =
      row.cells.map Cell.text := by
    rw [← body_written, Written.content_clause, valueItems_listed, map_text_values]
  have front : (row.text gap).takeBytes (row.written gap).clause.keyword = row.front gap := by
    change (row.text gap).takeBytes (row.written gap).beforeClause.byteLength = _
    rw [beforeClause_written, text, List.append_assoc, Text.takeBytes_byteLength_append]
  simp only [prepare, located, bind, Except.bind, items, Cell.bindAll_text, front, List.length_map]
  rfl

end Row
end SqlDump
