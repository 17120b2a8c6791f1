import Mathlib.Data.List.InsertIdx
import SqlDump.Proofs.ColumnRemoval
import SqlDump.Proofs.KeywordRenaming
import SqlDump.Proofs.LiteralRewriting
import SqlDump.Proofs.Rows
import SqlDump.Proofs.ValuesClause

/-!
# Preparing what is left of an INSERT

A written INSERT whose values are literals is prepared before and after one of its columns is
removed.  What is bound afterwards is what was bound before, less the value of the column.
-/

namespace SqlDump
namespace Insert

open Keyword (IsAbsent endsBeside)

/-! ## The word VALUES, part by part -/

/-- A text in which every quote, of a string too, stands in a closed quoted name. -/
inductive NameText : Text → Prop where
  | nil : NameText []
  | char {char : Char} {rest : Text}
      (noString : char ≠ '\'')
      (noName : char ≠ '"')
      (later : NameText rest) :
      NameText (char :: rest)
  | name {rest : Text}
      (name : Text)
      (later : NameText rest) :
      NameText (Quoted.quote '"' name ++ rest)

/-- The quotes of bare and quoted names are closed. -/
theorem NameText.region_after {text : Text} (names : NameText text) :
    Region.plain.after text = .plain := by
  induction names with
  | nil => rfl
  | @char char rest noString noName later inductionHypothesis =>
    have stays : Region.next .plain char = .plain := by simp [Region.next, noString, noName]
    rw [Region.after_cons, stays, inductionHypothesis]
  | name name later inductionHypothesis =>
    rw [Region.after_append, Region.after_quote (.inr rfl), inductionHypothesis]

theorem IsColumn.region_after {text : Text} (column : IsColumn text) :
    Region.plain.after text = .plain := by
  cases column with
  | bare nonempty plain =>
    refine Region.after_of_forall (fun char member => ?_) .plain
    obtain ⟨noString, noName, -⟩ := isDelimiter_eq_false.mp (plain char member).2
    exact ⟨noString, noName⟩
  | quoted name => exact Region.after_quote (.inr rfl) name

theorem region_after_blank (blank : Blank) (region : Region) :
    region.after blank.val = region := by
  refine Region.after_of_forall (fun char member => ?_) region
  exact ne_quote_of_isWhiteSpace (isWhiteSpace_of_mem blank char member)

theorem region_after_padded
    {kind : Text → Prop}
    (part : Part kind)
    (closed : Region.plain.after part.text = .plain) :
    Region.plain.after part.padded = .plain := by
  rw [Part.padded, Region.after_append, Region.after_append, region_after_blank,
    region_after_blank, closed]

theorem endsBeside_head?_blank (blank : Blank) : endsBeside blank.val.head? = true := by
  cases first : blank.val.head? with
  | none => rfl
  | some char =>
    have white := isWhiteSpace_of_mem blank char (List.mem_of_mem_head? first)
    simp [endsBeside, Keyword.continuesWord_of_isWhiteSpace white]

theorem endsBeside_getLast?_blank (blank : Blank) : endsBeside blank.val.getLast? = true := by
  cases last : blank.val.getLast? with
  | none => rfl
  | some char =>
    have white := isWhiteSpace_of_mem blank char (List.mem_of_getLast? last)
    simp [endsBeside, Keyword.continuesWord_of_isWhiteSpace white]

theorem isAbsent_blank (blank : Blank) : IsAbsent Keyword.values blank.val := by
  have passed : ∀ char ∈ blank.val,
      char ≠ '\'' ∧ char ≠ '"' ∧ Text.sameLetter 'V' char = false := by
    intro char member
    have white := isWhiteSpace_of_mem blank char member
    obtain ⟨noString, noName⟩ := ne_quote_of_isWhiteSpace white
    exact ⟨noString, noName, Text.sameLetter_of_isWhiteSpace rfl white⟩
  have nothing : Keyword.locateFrom? Keyword.values 0 .plain none 0 (blank.val ++ []) = none :=
    Keyword.locateFrom?_pass 'V' _ 0 0 none blank.val [] (Nat.le_refl 0) passed
  rwa [List.append_nil] at nothing

theorem isAbsent_values_append
    {front back : Text}
    (closed : Region.plain.after front = .plain)
    (boundary : endsBeside back.head? = true ∨ endsBeside front.getLast? = true) :
    IsAbsent Keyword.values (front ++ back) ↔
      IsAbsent Keyword.values front ∧ IsAbsent Keyword.values back :=
  Keyword.isAbsent_append isAlpha_of_mem_values closed boundary

/-- White space in front of a text does not matter. -/
theorem isAbsent_blank_append (blank : Blank) (text : Text) :
    IsAbsent Keyword.values (blank.val ++ text) ↔ IsAbsent Keyword.values text := by
  rw [isAbsent_values_append (region_after_blank blank _)
    (.inr (endsBeside_getLast?_blank blank))]
  exact and_iff_right (isAbsent_blank blank)

theorem isAbsent_append_blank
    {text : Text}
    (closed : Region.plain.after text = .plain)
    (blank : Blank) :
    IsAbsent Keyword.values (text ++ blank.val) ↔ IsAbsent Keyword.values text := by
  rw [isAbsent_values_append closed (.inl (endsBeside_head?_blank blank))]
  exact and_iff_left (isAbsent_blank blank)

/-- At a delimiter of lists a text falls into two. -/
theorem isAbsent_append_cons
    {front : Text}
    (closed : Region.plain.after front = .plain)
    {char : Char}
    (delimiter : char = '(' ∨ char = ')' ∨ char = ',')
    (back : Text) :
    IsAbsent Keyword.values (front ++ char :: back) ↔
      IsAbsent Keyword.values front ∧ IsAbsent Keyword.values back := by
  have ends : endsBeside (some char) = true := by rcases delimiter with rfl | rfl | rfl <;> rfl
  have plain : Region.plain.after [char] = .plain := by
    rcases delimiter with rfl | rfl | rfl <;> rfl
  have alone : IsAbsent Keyword.values [char] := by
    rcases delimiter with rfl | rfl | rfl <;> decide
  have behind : IsAbsent Keyword.values ([char] ++ back) ↔ IsAbsent Keyword.values back := by
    rw [isAbsent_values_append plain (.inr ends)]
    exact and_iff_right alone
  have boundary : endsBeside (List.head? ([char] ++ back)) = true := ends
  rw [← List.singleton_append, isAbsent_values_append closed (.inl boundary)]
  exact and_congr_right fun _ => behind

theorem isAbsent_padded
    {kind : Text → Prop}
    (part : Part kind)
    (closed : Region.plain.after part.text = .plain) :
    IsAbsent Keyword.values part.padded ↔ IsAbsent Keyword.values part.text := by
  have front : Region.plain.after (part.before.val ++ part.text) = .plain := by
    rw [Region.after_append, region_after_blank, closed]
  rw [Part.padded, isAbsent_append_blank front, isAbsent_blank_append]

theorem region_after_listed
    {kind : Text → Prop}
    {parts : List (Part kind)}
    (closed : ∀ part ∈ parts, Region.plain.after part.text = .plain) :
    Region.plain.after (listed parts) = .plain := by
  induction parts with
  | nil => rfl
  | cons part rest inductionHypothesis =>
    obtain ⟨closedFirst, closedRest⟩ := List.forall_mem_cons.mp closed
    have first := region_after_padded part closedFirst
    by_cases final : rest = []
    · rw [final, listed_singleton]
      exact first
    · rw [listed_cons part final, Region.after_append, first]
      exact inductionHypothesis closedRest

/-- A list of closed parts says VALUES if and only if one of the parts does. -/
theorem isAbsent_listed
    {kind : Text → Prop}
    {parts : List (Part kind)}
    (closed : ∀ part ∈ parts, Region.plain.after part.text = .plain) :
    IsAbsent Keyword.values (listed parts) ↔
      ∀ part ∈ parts, IsAbsent Keyword.values part.text := by
  induction parts with
  | nil => exact iff_of_true rfl fun part member => by cases member
  | cons part rest inductionHypothesis =>
    obtain ⟨closedFirst, closedRest⟩ := List.forall_mem_cons.mp closed
    have first := isAbsent_padded part closedFirst
    rw [List.forall_mem_cons, ← first]
    by_cases final : rest = []
    · rw [final, listed_singleton]
      exact (and_iff_left fun part member => by cases member).symm
    · rw [listed_cons part final,
        isAbsent_append_cons (region_after_padded part closedFirst) (.inr (.inr rfl))]
      exact and_congr_right fun _ => inductionHypothesis closedRest

namespace Written

variable {insert : Written}

/-- Whether the VALUES clause of a written INSERT is the first place that says VALUES: the quotes of
the table are closed, and nothing in front of the clause says VALUES outside quotes. -/
structure IsUnambiguous (insert : Written) : Prop where
  closed : Region.plain.after insert.table.text = .plain
  absent : IsAbsent Keyword.values insert.beforeClause

theorem region_after_word
    {keyword : Text}
    (word : Spelled keyword)
    (letters : ∀ letter ∈ keyword, letter.isAlpha = true)
    (region : Region) :
    region.after word.val = region := by
  refine Region.after_of_forall (fun char member => ?_) region
  exact ne_quote_of_isAlpha
    (Text.isAlpha_of_sameLetters word.property letters char member)

theorem region_after_header (closed : Region.plain.after insert.table.text = .plain) :
    Region.plain.after insert.header = .plain := by
  simp only [header, Region.after_append, region_after_blank,
    region_after_word insert.insertWord (List.all_eq_true.mp rfl),
    region_after_word insert.intoWord (List.all_eq_true.mp rfl), closed]

theorem region_after_beforeColumns (closed : Region.plain.after insert.table.text = .plain) :
    Region.plain.after insert.beforeColumns = .plain := by
  rw [beforeColumns, Region.after_append, region_after_header closed, region_after_blank]

theorem region_after_columns (columns : List (Part IsColumn)) :
    Region.plain.after (listed columns) = .plain :=
  region_after_listed fun column _ => column.isKind.region_after

theorem isAbsent_beforeClause (closed : Region.plain.after insert.table.text = .plain) :
    IsAbsent Keyword.values insert.beforeClause ↔
      IsAbsent Keyword.values insert.header ∧
        ∀ column ∈ insert.columns, IsAbsent Keyword.values column.text := by
  have header := region_after_header closed
  have columns : ∀ column ∈ insert.columns, Region.plain.after column.text = .plain :=
    fun column _ => column.isKind.region_after
  rw [beforeClause, isAbsent_append_cons (region_after_beforeColumns closed) (.inl rfl),
    beforeColumns, isAbsent_append_blank header,
    isAbsent_append_cons (region_after_columns _) (.inr (.inl rfl)), isAbsent_listed columns]
  exact and_congr_right fun _ => and_iff_left (isAbsent_blank insert.between)

/-! ## The clause is found from the start -/

/-- The VALUES clause of an unambiguous INSERT is found from the start of the statement. -/
theorem IsUnambiguous.locateValues_text (unambiguous : insert.IsUnambiguous) :
    locateValues insert.text 0 = .ok (insert.clauseBehind insert.lead.val) := by
  obtain ⟨closed, absent⟩ := unambiguous
  have columns : Region.plain.after (insert.beforeColumns ++ '(' :: listed insert.columns) =
      .plain := by
    rw [Region.after_append, region_after_beforeColumns closed]
    exact region_after_columns insert.columns
  let front := insert.lead.val ++ (insert.beforeColumns ++ '(' :: listed insert.columns)
  have closedFront : Region.plain.after front = .plain := by
    rw [Region.after_append, region_after_blank, columns]
  have absentFront : IsAbsent Keyword.values front := by
    have split : insert.beforeClause =
        (insert.beforeColumns ++ '(' :: listed insert.columns) ++ ')' :: insert.between.val := by
      simp [beforeClause]
    rw [split, isAbsent_append_cons columns (.inr (.inl rfl))] at absent
    exact (isAbsent_blank_append insert.lead _).mpr absent.1
  have whole : insert.text = front ++ ((')' :: insert.between.val) ++ (insert.valuesWord.val ++
      (insert.valuesGap.val ++ '(' :: (listed insert.values ++ ')' :: insert.trailing)))) := by
    simp [front, text, body, beforeValues, beforeClause]
  have place : front.byteLength + Text.byteLength (')' :: insert.between.val) =
      (insert.lead.val ++ insert.beforeClause).byteLength := by
    rw [← Text.byteLength_append]
    simp [front, beforeClause]
  have found : Keyword.locate? Keyword.values insert.text 0 =
      some (insert.lead.val ++ insert.beforeClause).byteLength := by
    rw [whole, ← place]
    refine (Keyword.locate?_append_of_isAbsent isAlpha_of_mem_values closedFront rfl
      absentFront).trans ?_
    exact Keyword.locate?_append insert.valuesWord.property rfl _ _ _ insert.passes_between
      insert.exists_getLast?_between (insert.endsBeside_valuesGap _)
  exact insert.locateValues_of_locate? insert.lead.val found

/-- Preparing an unambiguous INSERT binds its values. -/
theorem IsUnambiguous.prepare_text
    (unambiguous : insert.IsUnambiguous)
    (policy : LargeTextPolicy) :
    (prepare policy insert.text).map PreparedInsert.bindings =
      bindAll policy (insert.values.map Part.text) := by
  rw [prepare_of_locateValues unambiguous.locateValues_text, text, content_clauseBehind,
    valueItems_listed]

/-! ## What is left is unambiguous -/

theorem IsUnambiguous.stripped (unambiguous : insert.IsUnambiguous) :
    insert.stripped.IsUnambiguous :=
  ⟨unambiguous.closed, unambiguous.absent⟩

theorem IsUnambiguous.without (unambiguous : insert.IsUnambiguous) (index : Nat) :
    (insert.without index).IsUnambiguous := by
  obtain ⟨closed, absent⟩ := unambiguous
  obtain ⟨header, columns⟩ := (isAbsent_beforeClause closed).mp absent
  have closedLeft : Region.plain.after (insert.without index).table.text = .plain := closed
  refine ⟨closedLeft, (isAbsent_beforeClause closedLeft).mpr ⟨header, fun column member => ?_⟩⟩
  have text : column.text ∈ (insert.columns.map Part.text).eraseIdx index := by
    rw [← map_text_columns_without]
    exact List.mem_map_of_mem member
  obtain ⟨original, originalMember, same⟩ := List.mem_map.mp (List.mem_of_mem_eraseIdx text)
  rw [← same]
  exact columns original originalMember

theorem beforeClause_normalized :
    insert.normalized.beforeClause = DateLiteral.normalize insert.beforeClause := by
  have between : DateLiteral.normalize insert.between.val = insert.between.val :=
    DateLiteral.normalize_of_not _ (sameLetter_of_mem_blank insert.between)
  have columns : listed insert.normalized.columns =
      DateLiteral.normalize (listed insert.columns) :=
    listed_normalized DateLiteral.renames_column insert.columns
  rw [beforeClause, beforeClause, beforeColumns_normalized, columns,
    DateLiteral.normalize_append_cons _ '(' _ (.inl rfl),
    DateLiteral.normalize_append_cons _ ')' _ (.inr (.inl rfl)), between]
  rfl

theorem IsUnambiguous.normalized (unambiguous : insert.IsUnambiguous) :
    insert.normalized.IsUnambiguous := by
  obtain ⟨closed, absent⟩ := unambiguous
  constructor
  · have renamed := DateLiteral.Renamed.normalizeAfter none insert.table.text
    exact (renamed.region_after .plain).trans closed
  · rw [beforeClause_normalized]
    exact DateLiteral.isAbsent_values_normalize absent

/-! ## Bindings -/

variable {policy : LargeTextPolicy} {tokens : List Text} {bindings : List Binding}

theorem exists_of_bindAll_cons
    {token : Text}
    (bound : bindAll policy (token :: tokens) = .ok bindings) :
    ∃ binding others, bindings = binding :: others ∧ bindValue policy token = .ok binding ∧
      bindAll policy tokens = .ok others := by
  simp only [bindAll, bind, Except.bind] at bound
  cases first : bindValue policy token with
  | error error =>
    rw [first] at bound
    cases bound
  | ok binding =>
    rw [first] at bound
    cases rest : bindAll policy tokens with
    | error error =>
      rw [rest] at bound
      cases bound
    | ok others =>
      rw [rest] at bound
      cases bound
      exact ⟨binding, others, rfl, rfl, rfl⟩

end Written
end Insert
end SqlDump
