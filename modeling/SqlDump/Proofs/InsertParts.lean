import SqlDump.Proofs.Tracking
import SqlDump.Sql.Keyword

/-!
# The parts of a written INSERT

A table, a column name and a value are written without white space at their ends, and what is
written hides its own delimiters: inside quotes, or inside balanced parentheses.  Such a part,
with any white space around it, is quiet for every scan that has to pass over it.
-/

namespace SqlDump

open Unicode (isWhiteSpace)

/-- The characters that have a meaning in a list: quotes, parentheses and the comma. -/
def isDelimiter (char : Char) : Bool :=
  ['\'', '"', '(', ')', ','].contains char

theorem isDelimiter_eq_false {char : Char} :
    isDelimiter char = false ↔
      char ≠ '\'' ∧ char ≠ '"' ∧ char ≠ '(' ∧ char ≠ ')' ∧ char ≠ ',' := by
  simp [isDelimiter]

theorem isDelimiter_of_isWhiteSpace {char : Char} (white : isWhiteSpace char = true) :
    isDelimiter char = false := by
  rw [isDelimiter_eq_false]
  refine ⟨?_, ?_, ?_, ?_, ?_⟩ <;> rintro rfl <;> exact absurd white (by decide)

theorem isDelimiter_of_continuesWord
    {char : Char}
    (continues : Keyword.continuesWord char = true) :
    isDelimiter char = false := by
  rw [isDelimiter_eq_false]
  refine ⟨?_, ?_, ?_, ?_, ?_⟩ <;> rintro rfl <;> exact absurd continues (by decide)

theorem isDelimiter_of_isAlpha {char : Char} (letter : char.isAlpha = true) :
    isDelimiter char = false :=
  isDelimiter_of_continuesWord (by simp [Keyword.continuesWord, Char.isAlphanum, letter])

theorem ne_quote_of_isWhiteSpace {char : Char} (white : isWhiteSpace char = true) :
    char ≠ '\'' ∧ char ≠ '"' := by
  obtain ⟨noString, noIdentifier, -⟩ := isDelimiter_eq_false.mp (isDelimiter_of_isWhiteSpace white)
  exact ⟨noString, noIdentifier⟩

theorem ne_quote_of_isAlpha {char : Char} (letter : char.isAlpha = true) :
    char ≠ '\'' ∧ char ≠ '"' := by
  obtain ⟨noString, noIdentifier, -⟩ := isDelimiter_eq_false.mp (isDelimiter_of_isAlpha letter)
  exact ⟨noString, noIdentifier⟩

namespace Insert

/-! ## Tables, column names and values -/

/-- A text in which every parenthesis that opens stands in a closed quoted name. -/
inductive TableText : Text → Prop where
  | nil : TableText []
  | char {char : Char} {rest : Text}
      (noName : char ≠ '"')
      (noParenthesis : char ≠ '(')
      (later : TableText rest) :
      TableText (char :: rest)
  | name {rest : Text}
      (name : Text)
      (later : TableText rest) :
      TableText (Quoted.quote '"' name ++ rest)

/-- A text whose strings are closed and whose parentheses balance, without other quotes.  A comma
outside strings stands inside parentheses, be it those of a surrounding group. -/
inductive ValueText : (inGroup : Bool) → Text → Prop where
  | nil (inGroup : Bool) : ValueText inGroup []
  | char {inGroup : Bool} {char : Char} {rest : Text}
      (ordinary : isDelimiter char = false)
      (later : ValueText inGroup rest) :
      ValueText inGroup (char :: rest)
  | comma {rest : Text}
      (later : ValueText true rest) :
      ValueText true (',' :: rest)
  | string {inGroup : Bool} {rest : Text}
      (body : Text)
      (later : ValueText inGroup rest) :
      ValueText inGroup (Quoted.quote '\'' body ++ rest)
  | group {inGroup : Bool} {inner rest : Text}
      (balanced : ValueText true inner)
      (later : ValueText inGroup rest) :
      ValueText inGroup ('(' :: (inner ++ ')' :: rest))

theorem TableText.of_forall {text : Text} (ordinary : ∀ char ∈ text, isDelimiter char = false) :
    TableText text := by
  induction text with
  | nil => exact .nil
  | cons char rest inductionHypothesis =>
    obtain ⟨-, noName, noParenthesis, -⟩ :=
      isDelimiter_eq_false.mp (ordinary char List.mem_cons_self)
    exact .char noName noParenthesis
      (inductionHypothesis fun other member => ordinary other (List.mem_cons_of_mem _ member))

theorem TableText.append
    {front back : Text}
    (first : TableText front)
    (second : TableText back) :
    TableText (front ++ back) := by
  induction first with
  | nil => exact second
  | char noName noParenthesis later inductionHypothesis =>
    exact .char noName noParenthesis inductionHypothesis
  | name name later inductionHypothesis =>
    rw [List.append_assoc]
    exact .name name inductionHypothesis

theorem ValueText.of_forall
    {inGroup : Bool}
    {text : Text}
    (ordinary : ∀ char ∈ text, isDelimiter char = false) :
    ValueText inGroup text := by
  induction text with
  | nil => exact .nil inGroup
  | cons char rest inductionHypothesis =>
    exact .char (ordinary char List.mem_cons_self)
      (inductionHypothesis fun other member => ordinary other (List.mem_cons_of_mem _ member))

theorem ValueText.append
    {inGroup : Bool}
    {front back : Text}
    (first : ValueText inGroup front)
    (second : ValueText inGroup back) :
    ValueText inGroup (front ++ back) := by
  induction first with
  | nil => exact second
  | char ordinary later inductionHypothesis => exact .char ordinary (inductionHypothesis second)
  | comma later inductionHypothesis => exact .comma (inductionHypothesis second)
  | string body later inductionHypothesis =>
    rw [List.append_assoc]
    exact .string body (inductionHypothesis second)
  | group balanced later innerHypothesis laterHypothesis =>
    rw [List.cons_append, List.append_assoc, List.cons_append]
    exact .group balanced (laterHypothesis second)

/-- A table as it is written in front of a column list. -/
structure IsTable (text : Text) : Prop where
  written : TableText text
  nonempty : text ≠ []
  trimmed : text.trim = text

/-- A column name: a bare word without delimiters, or any name in double quotes. -/
inductive IsColumn : Text → Prop where
  | bare {word : Text}
      (nonempty : word ≠ [])
      (plain : ∀ char ∈ word, isWhiteSpace char = false ∧ isDelimiter char = false) :
      IsColumn word
  | quoted (name : Text) : IsColumn (Quoted.quote '"' name)

/-- A value as it is written in a value list. -/
structure IsValue (text : Text) : Prop where
  written : ValueText false text
  nonempty : text ≠ []
  trimmed : text.trim = text

/-- White space between the parts of a statement. -/
abbrev Blank := { text : Text // text.isBlank = true }

/-- No white space. -/
def Blank.empty : Blank :=
  ⟨[], Text.isBlank_nil⟩

/-- One space. -/
def Blank.space : Blank :=
  ⟨[' '], Text.isBlank_space⟩

@[simp] theorem Blank.val_empty : Blank.empty.val = [] := rfl

@[simp] theorem Blank.val_space : Blank.space.val = [' '] := rfl

theorem isWhiteSpace_of_mem (blank : Blank) : ∀ char ∈ blank.val, isWhiteSpace char = true :=
  List.all_eq_true.mp blank.property

theorem ValueText.blank (inGroup : Bool) (blank : Blank) : ValueText inGroup blank.val :=
  .of_forall fun char member => isDelimiter_of_isWhiteSpace (isWhiteSpace_of_mem blank char member)

/-- A part of a statement of some kind, with the white space around it. -/
structure Part (kind : Text → Prop) where
  before : Blank
  text : Text
  isKind : kind text
  after : Blank

namespace Part

variable {kind : Text → Prop}

/-- A part with the white space around it. -/
def padded (part : Part kind) : Text :=
  part.before.val ++ part.text ++ part.after.val

theorem trim_padded
    (part : Part kind)
    (trimmed : part.text.trim = part.text) :
    part.padded.trim = part.text := by
  rw [padded, Text.trim_append_blank _ _ part.after.property,
    Text.trim_append_of_isBlank _ _ part.before.property, trimmed]

theorem padded_ne_nil
    (part : Part kind)
    (nonempty : part.text ≠ []) :
    part.padded ≠ [] := by
  simp [padded, nonempty]

end Part

/-! ## Column names -/

theorem trim_quote (mark : Char) (name : Text) (solid : isWhiteSpace mark = false) :
    (Quoted.quote mark name).trim = Quoted.quote mark name := by
  have last : (Quoted.quote mark name).getLast? = some mark := by
    rw [Quoted.quote, ← List.cons_append, List.getLast?_concat]
  apply Text.trim_eq_self
  · simpa [Quoted.quote] using solid
  · simpa [last] using solid

namespace IsColumn

variable {text : Text}

theorem nonempty (column : IsColumn text) : text ≠ [] := by
  cases column with
  | bare nonempty plain => exact nonempty
  | quoted name => simp [Quoted.quote]

theorem trimmed (column : IsColumn text) : text.trim = text := by
  cases column with
  | bare nonempty plain =>
    apply Text.trim_eq_self
    · exact fun char member => (plain char (List.mem_of_mem_head? member)).1
    · exact fun char member => (plain char (List.mem_of_mem_getLast? member)).1
  | quoted name => exact trim_quote '"' name rfl

end IsColumn

/-- A quoted column name stands for what is quoted. -/
@[simp] theorem identifierName_quote (name : Text) :
    Quoted.identifierName (Quoted.quote '"' name) = name := by
  have body : Quoted.enclosed? '"' (Quoted.quote '"' name) = some (Quoted.double '"' name) :=
    Quoted.enclosed?_marks '"' (Quoted.double '"' name)
  rw [Quoted.identifierName, trim_quote '"' name rfl, body]
  exact Quoted.undouble_double '"' name

end Insert

/-! ## Quiet parts -/

namespace Tracker

variable {σ : Type} {tracker : Tracker σ}

/-- A state in which only delimiters count. -/
structure Rests (tracker : Tracker σ) (state : σ) : Prop where
  next_ordinary : ∀ char, isDelimiter char = false → tracker.next state char = state
  silent : ∀ char, isDelimiter char = false → tracker.reacts state char = false

theorem Rests.quiet_of_ordinary
    {state : σ}
    {text : Text}
    (rests : tracker.Rests state)
    (ordinary : ∀ char ∈ text, isDelimiter char = false) :
    tracker.Quiet state text state := by
  apply Quiet.of_forall
  · exact fun char member => rests.next_ordinary char (ordinary char member)
  · exact fun char member => rests.silent char (ordinary char member)

theorem Rests.quiet_of_isBlank
    {state : σ}
    {text : Text}
    (rests : tracker.Rests state)
    (blank : text.isBlank = true) :
    tracker.Quiet state text state := by
  apply rests.quiet_of_ordinary
  intro char member
  exact isDelimiter_of_isWhiteSpace (List.all_eq_true.mp blank char member)

/-- White space around a part does not matter to a tracker at rest. -/
theorem Rests.quiet_padded
    {kind : Text → Prop}
    {state : σ}
    (rests : tracker.Rests state)
    (part : Insert.Part kind)
    (quiet : tracker.Quiet state part.text state) :
    tracker.Quiet state part.padded state :=
  ((rests.quiet_of_isBlank part.before.property).append quiet).append
    (rests.quiet_of_isBlank part.after.property)

/-- A column name is quiet for a tracker that knows double quotes. -/
theorem Rests.quiet_column
    {outside inside : σ}
    {text : Text}
    (rests : tracker.Rests outside)
    (hides : tracker.Hides '"' outside inside)
    (column : Insert.IsColumn text) :
    tracker.Quiet outside text outside := by
  cases column with
  | bare nonempty plain => exact rests.quiet_of_ordinary fun char member => (plain char member).2
  | quoted name => exact Quiet.quote hides name

/-- A tracker that counts parentheses outside strings, and to which commas inside parentheses
mean nothing. -/
structure ReadsValues (tracker : Tracker σ) (outside inside : Nat → σ) : Prop where
  rests : ∀ depth, tracker.Rests (outside depth)
  hides : ∀ depth, tracker.Hides '\'' (outside depth) (inside depth)
  next_comma : ∀ depth, tracker.next (outside (depth + 1)) ',' = outside (depth + 1)
  silent_comma : ∀ depth, tracker.reacts (outside (depth + 1)) ',' = false
  next_opening : ∀ depth, tracker.next (outside depth) '(' = outside (depth + 1)
  silent_opening : ∀ depth, tracker.reacts (outside depth) '(' = false
  next_closing : ∀ depth, tracker.next (outside (depth + 1)) ')' = outside depth
  silent_closing : ∀ depth, tracker.reacts (outside (depth + 1)) ')' = false

/-- A value is quiet for a tracker that reads values, at whatever depth it stands. -/
theorem ReadsValues.quiet
    {outside inside : Nat → σ}
    {inGroup : Bool}
    {text : Text}
    (reads : tracker.ReadsValues outside inside)
    (value : Insert.ValueText inGroup text)
    (depth : Nat)
    (deep : inGroup = true → 0 < depth) :
    tracker.Quiet (outside depth) text (outside depth) := by
  induction value generalizing depth with
  | nil => exact .nil (outside depth)
  | @char inGroup char rest ordinary later inductionHypothesis =>
    have rests := reads.rests depth
    exact .stay (rests.next_ordinary char ordinary) (rests.silent char ordinary)
      (inductionHypothesis depth deep)
  | comma later inductionHypothesis =>
    obtain ⟨outer, rfl⟩ := Nat.exists_eq_succ_of_ne_zero (Nat.ne_of_gt (deep rfl))
    exact .stay (reads.next_comma outer) (reads.silent_comma outer)
      (inductionHypothesis (outer + 1) deep)
  | string body later inductionHypothesis =>
    exact (Quiet.quote (reads.hides depth) body).append (inductionHypothesis depth deep)
  | group balanced later innerHypothesis laterHypothesis =>
    refine .cons (reads.silent_opening depth) ?_
    rw [reads.next_opening]
    refine (innerHypothesis (depth + 1) fun _ => Nat.succ_pos depth).append ?_
    refine .cons (reads.silent_closing depth) ?_
    rw [reads.next_closing]
    exact laterHypothesis depth deep

end Tracker

/-! ## The four scans -/

namespace ValueNesting

theorem rests (depth : Nat) : nesting.tracker.Rests ⟨false, depth⟩ where
  next_ordinary char ordinary := by
    rw [isDelimiter_eq_false] at ordinary
    simp [Nesting.tracker, nesting, next, ordinary]
  silent char ordinary := by
    rw [isDelimiter_eq_false] at ordinary
    simp [Nesting.tracker, ordinary]

theorem hides (depth : Nat) : nesting.tracker.Hides '\'' ⟨false, depth⟩ ⟨true, depth⟩ where
  next_opening := rfl
  next_closing := rfl
  next_inside char other := by simp [Nesting.tracker, nesting, next, other]
  reacts_outside := rfl
  reacts_inside char := by simp [Nesting.tracker, nesting]

theorem readsValues : nesting.tracker.ReadsValues (⟨false, ·⟩) (⟨true, ·⟩) where
  rests := rests
  hides := hides
  next_comma _ := rfl
  silent_comma _ := rfl
  next_opening _ := rfl
  silent_opening _ := rfl
  next_closing _ := rfl
  silent_closing _ := rfl

end ValueNesting

namespace Parenthesis

theorem rests (depth : Nat) : tracker.Rests (.plain, depth) where
  next_ordinary char ordinary := by
    rw [isDelimiter_eq_false] at ordinary
    simp [tracker, Region.next, ordinary]
  silent char ordinary := by
    rw [isDelimiter_eq_false] at ordinary
    simp [tracker, ordinary]

theorem hides_string (depth : Nat) : tracker.Hides '\'' (.plain, depth) (.string, depth) where
  next_opening := rfl
  next_closing := rfl
  next_inside char other := by simp [tracker, Region.next, other]
  reacts_outside := by simp [tracker]
  reacts_inside char := by simp [tracker]

theorem hides_identifier (depth : Nat) :
    tracker.Hides '"' (.plain, depth) (.identifier, depth) where
  next_opening := rfl
  next_closing := rfl
  next_inside char other := by simp [tracker, Region.next, other]
  reacts_outside := by simp [tracker]
  reacts_inside char := by simp [tracker]

theorem readsValues : tracker.ReadsValues (.plain, ·) (.string, ·) where
  rests := rests
  hides := hides_string
  next_comma _ := rfl
  silent_comma _ := rfl
  next_opening _ := rfl
  silent_opening _ := by simp [tracker]
  next_closing _ := rfl
  silent_closing _ := rfl

end Parenthesis

theorem identifierNesting.rests : identifierNesting.tracker.Rests false where
  next_ordinary char ordinary := by
    rw [isDelimiter_eq_false] at ordinary
    simp [Nesting.tracker, identifierNesting, ordinary]
  silent char ordinary := by
    rw [isDelimiter_eq_false] at ordinary
    simp [Nesting.tracker, ordinary]

theorem identifierNesting.hides : identifierNesting.tracker.Hides '"' false true where
  next_opening := rfl
  next_closing := rfl
  next_inside char other := by simp [Nesting.tracker, identifierNesting, other]
  reacts_outside := rfl
  reacts_inside char := by simp [Nesting.tracker, identifierNesting]

namespace Insert

theorem tableTracker_rests : tableTracker.Rests false where
  next_ordinary char ordinary := by
    rw [isDelimiter_eq_false] at ordinary
    simp [tableTracker, ordinary]
  silent char ordinary := by
    rw [isDelimiter_eq_false] at ordinary
    simp [tableTracker, ordinary]

theorem tableTracker_hides : tableTracker.Hides '"' false true where
  next_opening := rfl
  next_closing := rfl
  next_inside char other := by simp [tableTracker, other]
  reacts_outside := rfl
  reacts_inside char := by simp [tableTracker]

/-- A table is quiet for the scan that looks for the parenthesis behind it. -/
theorem TableText.quiet {text : Text} (table : TableText text) :
    tableTracker.Quiet false text false := by
  induction table with
  | nil => exact .nil false
  | char noName noParenthesis later inductionHypothesis =>
    refine .stay ?_ ?_ inductionHypothesis
    · simp [tableTracker, noName]
    · simp [tableTracker, noParenthesis]
  | name name later inductionHypothesis =>
    exact (Tracker.Quiet.quote tableTracker_hides name).append inductionHypothesis

/-! ## Written lists -/

/-- Parts with commas between them. -/
def listed {kind : Text → Prop} (parts : List (Part kind)) : Text :=
  List.intercalate [','] (parts.map Part.padded)

theorem listed_singleton {kind : Text → Prop} (part : Part kind) : listed [part] = part.padded :=
  List.intercalate_singleton

theorem listed_cons
    {kind : Text → Prop}
    (part : Part kind)
    {rest : List (Part kind)}
    (nonempty : rest ≠ []) :
    listed (part :: rest) = part.padded ++ ',' :: listed rest := by
  rw [listed, List.map_cons, List.intercalate_cons_of_ne_nil (by simpa using nonempty),
    List.append_assoc]
  rfl

namespace Part

variable {kind : Text → Prop}

/-- A part with other white space in front of it and none behind it. -/
def behind (part : Part kind) (before : Blank) : Part kind where
  before := before
  text := part.text
  isKind := part.isKind
  after := Blank.empty

@[simp] theorem padded_behind (part : Part kind) (before : Blank) :
    (part.behind before).padded = before.val ++ part.text := by
  simp [padded, behind]

/-- Parts with the same white space between each comma and the next part. -/
def spaced (gap : Blank) : List (Part kind) → List (Part kind)
  | [] => []
  | part :: rest => part.behind Blank.empty :: rest.map (behind · gap)

theorem map_text_spaced (gap : Blank) (parts : List (Part kind)) :
    (spaced gap parts).map Part.text = parts.map Part.text := by
  cases parts with
  | nil => rfl
  | cons part rest =>
    rw [spaced, List.map_cons, List.map_map]
    rfl

end Part

theorem intercalate_comma_append (gap item : Text) (rest : List Text) :
    List.intercalate [','] (item :: rest.map (gap ++ ·)) =
      List.intercalate (',' :: gap) (item :: rest) := by
  induction rest generalizing item with
  | nil => rfl
  | cons next later inductionHypothesis =>
    have spaced (tail : List Text) :
        List.intercalate (',' :: gap) ((gap ++ next) :: tail) =
          gap ++ List.intercalate (',' :: gap) (next :: tail) := by
      cases tail <;> simp
    rw [List.map_cons, List.intercalate_cons_cons, inductionHypothesis, spaced,
      List.intercalate_cons_cons]
    simp

theorem listed_spaced {kind : Text → Prop} (gap : Blank) (parts : List (Part kind)) :
    listed (Part.spaced gap parts) = List.intercalate (',' :: gap.val) (parts.map Part.text) := by
  cases parts with
  | nil => rfl
  | cons part rest =>
    have cells : (Part.spaced gap (part :: rest)).map Part.padded =
        part.text :: (rest.map Part.text).map (gap.val ++ ·) := by
      simp [Part.spaced, Function.comp_def]
    rw [listed, cells, intercalate_comma_append, List.map_cons]

/-- The items of a written list are its parts, when the parts are quiet for the scan that cuts
the list. -/
theorem items_listed
    {σ : Type}
    {kind : Text → Prop}
    (nesting : Nesting σ)
    (separates : nesting.separates nesting.start = true)
    (stays : nesting.next nesting.start ',' = nesting.start)
    (rests : nesting.tracker.Rests nesting.start)
    (quiet : ∀ text, kind text → nesting.tracker.Quiet nesting.start text nesting.start)
    (nonempty : ∀ text, kind text → text ≠ [])
    (trimmed : ∀ text, kind text → text.trim = text)
    (parts : List (Part kind)) :
    nesting.items (listed parts) = parts.map Part.text := by
  have quietCells : ∀ cell ∈ parts.map Part.padded,
      nesting.tracker.Quiet nesting.start cell nesting.start := by
    rw [List.forall_mem_map]
    intro part _
    exact rests.quiet_padded part (quiet part.text part.isKind)
  have nonemptyCells : ∀ cell ∈ parts.map Part.padded, cell ≠ [] := by
    rw [List.forall_mem_map]
    intro part _
    exact part.padded_ne_nil (nonempty part.text part.isKind)
  rw [listed, nesting.items_intercalate _ separates stays quietCells nonemptyCells, List.map_map]
  apply List.map_congr_left
  intro part _
  exact part.trim_padded (trimmed part.text part.isKind)

/-- The items of a written column list are its columns. -/
theorem identifierItems_listed (columns : List (Part IsColumn)) :
    identifierItems (listed columns) = columns.map Part.text := by
  have rests := identifierNesting.rests
  apply items_listed identifierNesting rfl rfl rests
  · exact fun text column => rests.quiet_column identifierNesting.hides column
  · exact fun text column => column.nonempty
  · exact fun text column => column.trimmed

/-- The items of a written value list are its values. -/
theorem valueItems_listed (values : List (Part IsValue)) :
    valueItems (listed values) = values.map Part.text := by
  apply items_listed ValueNesting.nesting rfl rfl (ValueNesting.rests 0)
  · intro text value
    exact ValueNesting.readsValues.quiet value.written 0 fun grouped =>
      absurd grouped Bool.false_ne_true
  · exact fun text value => value.nonempty
  · exact fun text value => value.trimmed

/-- No parenthesis in a written list matches one outside when none does in its parts. -/
theorem quiet_listed
    {kind : Text → Prop}
    (quiet : ∀ text, kind text →
      Parenthesis.tracker.Quiet (.plain, 0) text (.plain, 0))
    (parts : List (Part kind)) :
    Parenthesis.tracker.Quiet (.plain, 0) (listed parts) (.plain, 0) := by
  apply Tracker.Quiet.intercalate rfl rfl
  rw [List.forall_mem_map]
  intro part _
  exact (Parenthesis.rests 0).quiet_padded part (quiet part.text part.isKind)

theorem quiet_columns (columns : List (Part IsColumn)) :
    Parenthesis.tracker.Quiet (.plain, 0) (listed columns) (.plain, 0) := by
  apply quiet_listed
  intro text column
  exact (Parenthesis.rests 0).quiet_column (Parenthesis.hides_identifier 0) column

theorem quiet_values (values : List (Part IsValue)) :
    Parenthesis.tracker.Quiet (.plain, 0) (listed values) (.plain, 0) := by
  apply quiet_listed
  intro text value
  exact Parenthesis.readsValues.quiet value.written 0 fun grouped =>
    absurd grouped Bool.false_ne_true

end Insert
end SqlDump
