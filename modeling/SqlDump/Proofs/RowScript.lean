import SqlDump.Proofs.Resegmentation
import SqlDump.Proofs.Rows
import SqlDump.Proofs.TwoPass

/-!
# Scripts of rows

A script with a line for each row holds the statements of its rows and nothing else, whatever the
strings and the quoted names say: the scanner gathers every character of a row, and stands outside
quotes and parentheses behind it.
-/

namespace SqlDump

/-! ## Quoted text -/

/-- Quoted text ends at the mark behind it, unless another mark follows. -/
theorem Lexeme.splitQuoted_double
    {mark : Char}
    {rest : Text}
    (single : rest.head? ≠ some mark)
    (text : Text) :
    splitQuoted mark (Quoted.double mark text ++ mark :: rest) =
      (Quoted.double mark text ++ [mark], rest) := by
  induction text with
  | nil =>
    cases rest with
    | nil => rfl
    | cons next later =>
      have other : next ≠ mark := fun same => single (by simp [same])
      simp [Quoted.double, splitQuoted, other]
  | cons char later inductionHypothesis =>
    by_cases marked : char = mark
    · rw [Quoted.double, if_pos marked, List.cons_append, List.cons_append, splitQuoted,
        if_pos ⟨rfl, rfl⟩, inductionHypothesis]
      rfl
    · -- the closing mark makes what follows the character a text of one character at least
      obtain ⟨next, behind, whole⟩ := List.exists_cons_of_ne_nil
        (List.append_ne_nil_of_right_ne_nil (Quoted.double mark later) (List.cons_ne_nil mark rest))
      rw [Quoted.double, if_neg marked, List.cons_append, whole, splitQuoted,
        if_neg (fun both => marked both.1), if_neg marked, ← whole, inductionHypothesis]
      rfl

namespace Scanner
namespace State

/-! ## Texts gathered in plain text -/

/-- A text that a scanner gathers in plain text, coming from one depth of parentheses to another,
whatever follows. -/
def Gathers (depth : Nat) (text : Text) (last : Nat) : Prop :=
  ∀ reversed rest, statementsIn ⟨.normal, depth, reversed⟩ (text ++ rest) =
    statementsIn ⟨.normal, last, text.reverse ++ reversed⟩ rest

/-- A text that a scanner gathers in plain text when no quote follows. -/
def GathersItem (text : Text) : Prop :=
  ∀ depth reversed char rest, char ≠ '\'' → char ≠ '"' →
    statementsIn ⟨.normal, depth, reversed⟩ (text ++ char :: rest) =
      statementsIn ⟨.normal, depth, text.reverse ++ reversed⟩ (char :: rest)

theorem Gathers.nil (depth : Nat) : Gathers depth [] depth :=
  fun _ _ => rfl

theorem Gathers.append
    {depth between last : Nat}
    {front back : Text}
    (first : Gathers depth front between)
    (second : Gathers between back last) :
    Gathers depth (front ++ back) last := by
  intro reversed rest
  rw [List.append_assoc, first, second, List.reverse_append, List.append_assoc]

/-- The characters that open quotes or comments or end a statement. -/
def opensOrEnds (char : Char) : Bool :=
  ['\'', '"', '-', '/', ';'].contains char

theorem gathers_char
    {char : Char}
    (soft : opensOrEnds char = false)
    (depth : Nat) :
    Gathers depth [char] (depthAfter depth char) := by
  intro reversed rest
  simp only [opensOrEnds, List.contains_eq_mem, List.mem_cons, List.not_mem_nil, or_false,
    decide_eq_false_iff_not, not_or] at soft
  obtain ⟨noString, noIdentifier, noDash, noSlash, noSemicolon⟩ := soft
  exact statementsIn_plain depth reversed char rest (by simp [noString, noIdentifier])
    (fun both => noDash both.1) (fun both => noSlash both.1) (fun both => noSemicolon both.1)

theorem gathers_of_isInert
    {text : Text}
    (inert : ∀ char ∈ text, isInert char = true)
    (depth : Nat) :
    Gathers depth text depth := by
  induction text with
  | nil => exact .nil depth
  | cons char rest inductionHypothesis =>
    obtain ⟨noDash, noSlash, -, noString, noIdentifier, noOpening, noClosing, noSemicolon⟩ :=
      (isInert_iff char).mp (inert char List.mem_cons_self)
    have soft : opensOrEnds char = false := by
      simp [opensOrEnds, noDash, noSlash, noString, noIdentifier, noSemicolon]
    have first := gathers_char soft depth
    rw [depthAfter, if_neg noOpening, if_neg noClosing] at first
    exact first.append (inductionHypothesis fun other member =>
      inert other (List.mem_cons_of_mem _ member))

/-! ## Items -/

theorem GathersItem.of_gathers
    {text : Text}
    (gathers : ∀ depth, Gathers depth text depth) :
    GathersItem text :=
  fun depth reversed char rest _ _ => gathers depth reversed (char :: rest)

/-- Quoted text is gathered, whatever it says. -/
theorem gathersItem_quote
    {mark : Char}
    (quote : mark = '\'' ∨ mark = '"')
    (text : Text) :
    GathersItem (Quoted.quote mark text) := by
  intro depth reversed char rest noString noIdentifier
  have single : (char :: rest).head? ≠ some mark := by
    rcases quote with rfl | rfl <;> simp [noString, noIdentifier]
  have split : Quoted.quote mark text ++ char :: rest =
      mark :: (Quoted.double mark text ++ mark :: char :: rest) := by
    simp [Quoted.quote]
  rw [split, statementsIn_quote _ _ _ _ quote, Lexeme.splitQuoted_double single]
  rfl

/-- A character behind an item that opens nothing and ends no statement is gathered with it. -/
theorem GathersItem.append_char
    {text : Text}
    (gathers : GathersItem text)
    {char : Char}
    (soft : opensOrEnds char = false)
    (depth : Nat) :
    Gathers depth (text ++ [char]) (depthAfter depth char) := by
  intro reversed rest
  have noString : char ≠ '\'' := by
    rintro rfl
    exact absurd soft (by decide)
  have noIdentifier : char ≠ '"' := by
    rintro rfl
    exact absurd soft (by decide)
  rw [List.append_assoc, List.singleton_append, gathers depth reversed char rest noString
    noIdentifier, ← List.singleton_append, gathers_char soft depth]
  simp

/-- A list of items is gathered up to the parenthesis behind it. -/
theorem gathers_intercalate
    {separator : Text}
    (inert : ∀ char ∈ separator, isInert char = true)
    {items : List Text}
    (gathers : ∀ item ∈ items, GathersItem item)
    (depth : Nat) :
    Gathers (depth + 1) (List.intercalate (',' :: separator) items ++ [')']) depth := by
  induction items with
  | nil => exact gathers_char rfl (depth + 1)
  | cons item others inductionHypothesis =>
    have gathersItem := gathers item List.mem_cons_self
    have gathersOthers := inductionHypothesis fun other member =>
      gathers other (List.mem_cons_of_mem _ member)
    by_cases final : others = []
    · rw [final, List.intercalate_singleton]
      exact gathersItem.append_char rfl (depth + 1)
    · have comma : Gathers (depth + 1) (item ++ [',']) (depth + 1) :=
        gathersItem.append_char rfl (depth + 1)
      have front := comma.append (gathers_of_isInert inert (depth + 1))
      rw [List.intercalate_cons_of_ne_nil final]
      simpa using front.append gathersOthers

end State
end Scanner

/-! ## Rows -/

open Scanner.State

theorem isInert_of_continuesWord
    {char : Char}
    (continues : Keyword.continuesWord char = true) :
    isInert char = true := by
  rw [isInert_iff]
  refine ⟨?_, ?_, ?_, ?_, ?_, ?_, ?_, ?_⟩ <;> rintro rfl <;> exact absurd continues (by decide)

theorem gathersItem_of_continuesWord
    {word : Text}
    (continues : ∀ char ∈ word, Keyword.continuesWord char = true) :
    GathersItem word :=
  .of_gathers (gathers_of_isInert fun char member =>
    isInert_of_continuesWord (continues char member))

/-- The minus of an integer opens no comment, because a digit follows. -/
theorem gathersItem_toText (value : Int) : GathersItem (Integer.toText value) := by
  obtain ⟨first, digits, whole, start, allDigits⟩ := Integer.exists_toText value
  have word : GathersItem digits := gathersItem_of_continuesWord fun digit member =>
    Keyword.continuesWord_of_isDigit (allDigits digit member)
  rw [whole]
  rcases start with ⟨rfl, nonempty⟩ | firstDigit
  · obtain ⟨next, later, rfl⟩ := List.exists_cons_of_ne_nil nonempty
    have noDash : next ≠ '-' := by
      rintro rfl
      exact absurd (allDigits '-' List.mem_cons_self) (by decide)
    intro depth reversed char rest noString noIdentifier
    have minus := statementsIn_plain depth reversed '-' (next :: later ++ char :: rest)
      (by decide) (fun both => noDash (Option.some.inj both.2)) (by simp) (by simp)
    have digits := word depth ('-' :: reversed) char rest noString noIdentifier
    rw [List.cons_append, minus]
    simpa [depthAfter] using digits
  · refine gathersItem_of_continuesWord ?_
    exact List.forall_mem_cons.mpr ⟨Keyword.continuesWord_of_isDigit firstDigit,
      fun digit member => Keyword.continuesWord_of_isDigit (allDigits digit member)⟩

theorem Name.gathersItem (name : Name) : GathersItem name.text := by
  cases name with
  | quoted name => exact gathersItem_quote (.inr rfl) name
  | bare word nonempty continues other => exact gathersItem_of_continuesWord continues

theorem Cell.gathersItem (cell : Cell) : GathersItem cell.text := by
  cases cell with
  | null => exact gathersItem_of_continuesWord (List.all_eq_true.mp rfl)
  | integer value fits => exact gathersItem_toText value
  | string text => exact gathersItem_quote (.inl rfl) text

namespace Row

open SqlDump.Insert

variable (gap : Blank) (row : Row)

theorem gathers_list
    {items : List Text}
    (gathers : ∀ item ∈ items, GathersItem item)
    (depth : Nat) :
    Gathers depth (list gap items) depth := by
  have opening : Gathers depth ['('] (depth + 1) := gathers_char rfl depth
  have inert : ∀ char ∈ gap.val, isInert char = true := fun char member =>
    isInert_of_isWhiteSpace char (isWhiteSpace_of_mem gap char member)
  exact opening.append (gathers_intercalate inert gathers depth)

/-- Every character of a row is gathered. -/
theorem gathers_text : Gathers 0 (row.text gap) 0 := by
  have intoTable : Gathers 0 (Keyword.insert ++ ' ' :: Keyword.into ++ [' ']) 0 :=
    gathers_of_isInert (List.all_eq_true.mp rfl) 0
  have table : Gathers 0 (row.table.text ++ [' ']) 0 :=
    row.table.gathersItem.append_char rfl 0
  have columns : Gathers 0 (list gap (row.columns.map Name.text)) 0 := by
    refine gathers_list gap ?_ 0
    rw [List.forall_mem_map]
    exact fun name _ => name.gathersItem
  have valuesWord : Gathers 0 (' ' :: Keyword.values ++ [' ']) 0 :=
    gathers_of_isInert (List.all_eq_true.mp rfl) 0
  have cells : Gathers 0 (list gap (row.cells.map Cell.text)) 0 := by
    refine gathers_list gap ?_ 0
    rw [List.forall_mem_map]
    exact fun cell _ => cell.gathersItem
  have whole := (((intoTable.append table).append columns).append valuesWord).append cells
  simpa [text, front] using whole

theorem trim_text : (row.text gap).trim = row.text gap := by
  have last : (row.text gap).getLast? = some ')' := by
    have split : row.text gap = row.front gap ++ Keyword.values ++
        ' ' :: '(' :: List.intercalate (',' :: gap.val) (row.cells.map Cell.text) ++ [')'] := by
      simp [text, list]
    rw [split, List.getLast?_concat]
  have first : (row.text gap).head? = some 'I' := rfl
  apply Text.trim_eq_self
  · rw [first]
    rintro char ⟨⟩
    rfl
  · rw [last]
    rintro char ⟨⟩
    rfl

/-- A row and the semicolon behind it are read as one statement. -/
theorem statementsIn_text
    (blank rest : Text)
    (white : blank.isBlank = true) :
    statementsIn ⟨.normal, 0, blank.reverse⟩ (row.text gap ++ [';', '\n'] ++ rest) =
      ⟨row.text gap⟩ :: statementsIn ⟨.normal, 0, ['\n']⟩ rest := by
  have statement : Statement.ofText? (blank ++ row.text gap) = some ⟨row.text gap⟩ := by
    rw [Statement.ofText?_eq_some_iff, Text.trim_append_of_isBlank blank _ white, trim_text]
    exact ⟨rfl, List.cons_ne_nil _ _⟩
  rw [List.append_assoc, gathers_text, List.cons_append, statementsIn_cons,
    step_semicolon _ rfl rfl, gathered_normal]
  simp only [List.reverse_append, List.reverse_reverse, statement]
  rfl

/-- A script of rows holds their statements and nothing else. -/
theorem statements_script (rows : List Row) :
    Script.statements (script gap rows) = rows.map fun row => ⟨row.text gap⟩ := by
  -- each row but the first is read behind the line end of the row before
  have behind (blank : Text) (white : blank.isBlank = true) :
      statementsIn ⟨.normal, 0, blank.reverse⟩ (script gap rows) =
        rows.map fun row => ⟨row.text gap⟩ := by
    induction rows generalizing blank with
    | nil =>
      have nothing : Statement.ofText? blank = none := by
        rw [Statement.ofText?, Text.trim_of_isBlank blank white]
      simp [script, statementsIn_nil, nothing]
    | cons row rest inductionHypothesis =>
      have split : script gap (row :: rest) = row.text gap ++ [';', '\n'] ++ script gap rest := rfl
      rw [split, statementsIn_text gap row blank _ white, List.map_cons]
      exact congrArg _ (inductionHypothesis ['\n'] rfl)
  rw [Script.statements_eq_statementsIn]
  exact behind [] rfl

/-- A script of rows is read back: it holds one statement for each row, and preparing the
statements yields the values of the rows. -/
theorem script_reads_back (policy : LargeTextPolicy) (rows : List Row) :
    Script.statements (script gap rows) = rows.map (fun row => ⟨row.text gap⟩) ∧
      (Script.statements (script gap rows)).map (fun statement =>
          prepare policy statement.text) =
        rows.map fun row => .ok (row.prepared policy gap) := by
  refine ⟨statements_script gap rows, ?_⟩
  rw [statements_script, List.map_map]
  exact List.map_congr_left fun row _ => row.prepare_text gap policy

end Row
end SqlDump
