import SqlDump.Proofs.Renaming
import SqlDump.Proofs.WrittenInsert

/-!
# Rewriting the dates of a written INSERT

The dates of a written INSERT are rewritten part by part: in its table, in each column and each
value, and behind its lists.  The result is the INSERT written from the rewritten parts.
-/

namespace SqlDump
namespace Insert

/-- A part with the dates in it rewritten. -/
def Part.normalized
    {kind : Text → Prop}
    (renames : DateLiteral.Renames kind)
    (part : Part kind) :
    Part kind where
  before := part.before
  text := DateLiteral.normalize part.text
  isKind := renames _ _ part.isKind (.normalizeAfter none part.text)
  after := part.after

theorem Part.padded_normalized
    {kind : Text → Prop}
    (renames : DateLiteral.Renames kind)
    (part : Part kind) :
    (part.normalized renames).padded = DateLiteral.normalize part.padded := by
  rw [padded, padded, DateLiteral.normalize,
    DateLiteral.normalizeAfter_append_blank _ _ _ part.after.property,
    DateLiteral.normalizeAfter_blank_append _ _ _ part.before.property fun _ => rfl]
  rfl

theorem map_text_normalized
    {kind : Text → Prop}
    (renames : DateLiteral.Renames kind)
    (parts : List (Part kind)) :
    (parts.map (Part.normalized renames)).map Part.text =
      (parts.map Part.text).map DateLiteral.normalize := by
  rw [List.map_map, List.map_map]
  rfl

theorem listed_normalized
    {kind : Text → Prop}
    (renames : DateLiteral.Renames kind)
    (parts : List (Part kind)) :
    listed (parts.map (Part.normalized renames)) = DateLiteral.normalize (listed parts) := by
  rw [listed, listed, DateLiteral.normalize_intercalate, List.map_map, List.map_map]
  congr 1
  apply List.map_congr_left
  intro part _
  exact part.padded_normalized renames

namespace Written

variable (insert : Written)

theorem sameLetter_of_table
    {char : Char}
    {rest : Text}
    (before : insert.table.before.val = [])
    (table : insert.table.text = char :: rest) :
    Text.sameLetter 'D' char = false := by
  have apart := insert.apart before
  rw [table] at apart
  rw [Bool.eq_false_iff]
  intro same
  have word := DateLiteral.isWordCharacter_of_isAlpha (Text.isAlpha_of_sameLetter same rfl)
  exact Bool.false_ne_true (apart.symm.trans word)

/-- A table that stands next to the word INTO does not start with a date. -/
theorem apart_normalize (before : insert.table.before.val = []) :
    ((DateLiteral.normalize insert.table.text).head?).any Unicode.isWordCharacter = false := by
  obtain ⟨char, rest, table⟩ := List.exists_cons_of_ne_nil insert.table.isKind.nonempty
  have other := insert.sameLetter_of_table before table
  have noDate := DateLiteral.startsDate_cons_of_not char rest other
  have apart := insert.apart before
  rw [table] at apart ⊢
  rw [DateLiteral.normalize, DateLiteral.normalizeAfter_cons_of_not _ _ _ noDate]
  exact apart

/-- The statement with the dates in it rewritten. -/
def normalized : Written :=
  { insert with
    table := insert.table.normalized DateLiteral.renames_table
    apart := insert.apart_normalize
    columns := insert.columns.map (Part.normalized DateLiteral.renames_column)
    values := insert.values.map (Part.normalized DateLiteral.renames_value)
    trailing := DateLiteral.normalize insert.trailing }

theorem sameLetter_of_mem_word
    {keyword : Text}
    (word : Spelled keyword)
    (other : keyword.all (!Text.sameLetter 'D' ·) = true) :
    ∀ char ∈ word.val, Text.sameLetter 'D' char = false := by
  refine Text.forall_mem_of_sameLetters word.property ?_
  intro letter member char same
  have equal : letter.toLower = char.toLower := beq_iff_eq.mp same
  have letterOther : Text.sameLetter 'D' letter = false := by
    simpa using List.all_eq_true.mp other letter member
  rwa [Text.sameLetter, ← equal]

theorem sameLetter_of_mem_blank (blank : Blank) :
    ∀ char ∈ blank.val, Text.sameLetter 'D' char = false := by
  intro char member
  exact Text.sameLetter_of_isWhiteSpace rfl (isWhiteSpace_of_mem blank char member)

theorem beforeColumns_normalized :
    insert.normalized.beforeColumns = DateLiteral.normalize insert.beforeColumns := by
  have words : ∀ char ∈ insert.insertWord.val ++ insert.insertGap.val ++ insert.intoWord.val,
      Text.sameLetter 'D' char = false := by
    simp only [List.forall_mem_append]
    exact ⟨⟨sameLetter_of_mem_word insert.insertWord rfl,
      sameLetter_of_mem_blank insert.insertGap⟩,
      sameLetter_of_mem_word insert.intoWord rfl⟩
  have table (previous : Option Char) :
      DateLiteral.normalizeAfter previous (insert.table.before.val ++ insert.table.text) =
        insert.table.before.val ++ DateLiteral.normalize insert.table.text := by
    -- next to INTO the table follows a letter, but then it does not start with one itself
    by_cases before : insert.table.before.val = []
    · obtain ⟨char, rest, text⟩ := List.exists_cons_of_ne_nil insert.table.isKind.nonempty
      rw [before, text]
      exact DateLiteral.normalizeAfter_cons_eq_normalize previous char rest
        (insert.sameLetter_of_table before text)
    · exact DateLiteral.normalizeAfter_blank_append _ _ _ insert.table.before.property
        fun empty => absurd empty before
  have whole : insert.beforeColumns =
      (insert.insertWord.val ++ insert.insertGap.val ++ insert.intoWord.val) ++
        (insert.table.before.val ++ insert.table.text ++ insert.table.after.val) := by
    simp [beforeColumns, header]
  rw [whole, DateLiteral.normalize, DateLiteral.normalizeAfter_append_of_not _ _ _ words,
    DateLiteral.normalizeAfter_append_blank _ _ _ insert.table.after.property, table]
  simp [beforeColumns, header, normalized, Part.normalized]

/-- The landmarks of a written INSERT are not rewritten, and no date reaches across one. -/
theorem body_normalized : insert.normalized.body = DateLiteral.normalize insert.body := by
  have middle : DateLiteral.normalize
      (insert.between.val ++ insert.valuesWord.val ++ insert.valuesGap.val) =
        insert.between.val ++ insert.valuesWord.val ++ insert.valuesGap.val := by
    apply DateLiteral.normalize_of_not
    simp only [List.forall_mem_append]
    exact ⟨⟨sameLetter_of_mem_blank insert.between,
      sameLetter_of_mem_word insert.valuesWord rfl⟩,
      sameLetter_of_mem_blank insert.valuesGap⟩
  have columns : listed insert.normalized.columns =
      DateLiteral.normalize (listed insert.columns) :=
    listed_normalized DateLiteral.renames_column insert.columns
  have values : listed insert.normalized.values = DateLiteral.normalize (listed insert.values) :=
    listed_normalized DateLiteral.renames_value insert.values
  rw [body_eq_columns, body_eq_columns, beforeColumns_normalized, columns, values,
    DateLiteral.normalize_append_cons _ '(' _ (Or.inl rfl),
    DateLiteral.normalize_append_cons _ ')' _ (Or.inr (Or.inl rfl)),
    DateLiteral.normalize_append_cons _ '(' _ (Or.inl rfl),
    DateLiteral.normalize_append_cons _ ')' _ (Or.inr (Or.inl rfl)), middle]
  rfl

theorem map_text_columns_normalized :
    insert.normalized.columns.map Part.text =
      (insert.columns.map Part.text).map DateLiteral.normalize :=
  map_text_normalized DateLiteral.renames_column insert.columns

theorem map_text_values_normalized :
    insert.normalized.values.map Part.text =
      (insert.values.map Part.text).map DateLiteral.normalize :=
  map_text_normalized DateLiteral.renames_value insert.values

end Written
end Insert
end SqlDump
