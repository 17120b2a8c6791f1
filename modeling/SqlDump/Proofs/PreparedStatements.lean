import Mathlib.Data.List.Forall2
import SqlDump.Proofs.PreparedRemoval
import SqlDump.Proofs.Rescanning
import SqlDump.Proofs.Sections

/-!
# Prepared statements are read back

A prepared statement keeps the text in front of its keyword VALUES, and what stands behind it is
written anew.  The word cannot come to stand further in front by that: it would have to end in its
own first letter, or that letter would continue it into a longer word.
-/

namespace SqlDump

namespace Keyword

variable {letter : Char} {keyword : Text}

/-- Whether a word begins in front of a place where the first letter of the keyword stands does not
depend on what follows that letter, if the letter does not occur in the word. -/
theorem begins_append_cons_congr
    (isLetter : letter.isAlpha = true)
    (once : ∀ later ∈ keyword, Text.sameLetter later letter = false)
    {first other : Char}
    (sameFirst : Text.sameLetter letter first = true)
    (sameOther : Text.sameLetter letter other = true)
    (front back replaced : Text) :
    begins keyword none (front ++ first :: back) = begins keyword none (front ++ other :: replaced) := by
  induction keyword generalizing front with
  | nil =>
    cases front with
    | nil =>
      have continuesFirst := continuesWord_of_sameLetter isLetter sameFirst
      have continuesOther := continuesWord_of_sameLetter isLetter sameOther
      simp [begins_nil, endsBeside, continuesFirst, continuesOther]
    | cons char rest => rfl
  | cons later keyword inductionHypothesis =>
    obtain ⟨differs, onceLater⟩ := List.forall_mem_cons.mp once
    cases front with
    | nil =>
      rw [List.nil_append, List.nil_append, begins_cons_cons, begins_cons_cons,
        Text.sameLetter_congr sameFirst, Text.sameLetter_congr sameOther, differs, Bool.false_and,
        Bool.false_and]
    | cons char rest =>
      rw [List.cons_append, List.cons_append, begins_cons_cons, begins_cons_cons,
        inductionHypothesis onceLater]

/-- A keyword whose first letter does not occur in it again is found at the same place if the text
from there on is replaced by another that begins with it. -/
theorem locateFrom?_append_of_begins
    (isLetter : letter.isAlpha = true)
    (once : ∀ later ∈ keyword, Text.sameLetter later letter = false)
    {region : Region}
    {previous : Option Char}
    {position : Nat}
    {front back replaced : Text}
    {first other : Char}
    (sameFirst : Text.sameLetter letter first = true)
    (begun : begins (letter :: keyword) (front.getLast?.or previous) (other :: replaced) = true)
    (found : locateFrom? (letter :: keyword) 0 region previous position (front ++ first :: back) =
      some (position + front.byteLength)) :
    locateFrom? (letter :: keyword) 0 region previous position (front ++ other :: replaced) =
      some (position + front.byteLength) := by
  have sameOther : Text.sameLetter letter other = true := by
    rw [begins_eq_and, begins_cons_cons, Bool.and_eq_true, Bool.and_eq_true] at begun
    exact begun.2.1
  induction front generalizing region previous position with
  | nil =>
    obtain ⟨noString, noIdentifier⟩ :=
      ne_quote_of_continuesWord (continuesWord_of_sameLetter isLetter sameOther)
    rw [List.nil_append, locateFrom?, if_neg (Nat.not_lt_zero _)] at found ⊢
    split at found
    · rename_i here
      exact if_pos ⟨here.1, noString, noIdentifier, begun⟩
    · have late := (lt_of_locateFrom? (Nat.zero_le _) found).1
      have size : 0 < first.utf8Size := Char.utf8Size_pos first
      simp only [Text.byteLength_nil] at late
      omega
  | cons char rest inductionHypothesis =>
    have alike : begins (letter :: keyword) previous (char :: (rest ++ other :: replaced)) =
        begins (letter :: keyword) previous (char :: (rest ++ first :: back)) := by
      rw [begins_eq_and, begins_eq_and _ previous (char :: (rest ++ first :: back)),
        begins_cons_cons, begins_cons_cons,
        begins_append_cons_congr isLetter once sameOther sameFirst]
    rw [List.cons_append, locateFrom?, if_neg (Nat.not_lt_zero _)] at found ⊢
    rw [alike]
    rw [Text.getLast?_cons_or] at begun
    rw [Text.byteLength_cons, ← Nat.add_assoc] at found ⊢
    split at found
    · have early := Option.some.inj found
      have size : 0 < char.utf8Size := Char.utf8Size_pos char
      omega
    · rename_i refused
      rw [if_neg refused]
      exact inductionHypothesis begun found

end Keyword

namespace Insert

variable {policy : LargeTextPolicy} {statement : Text} {prepared : PreparedInsert}

/-- A prepared statement is the text in front of a VALUES clause, the word and as many placeholders
as there are bindings, which are those of the values of the clause. -/
theorem exists_clause_of_prepare (prepares : prepare policy statement = .ok prepared) :
    ∃ clause, locateValues statement 0 = .ok clause ∧
      bindAll policy (valueItems (clause.list.content statement)) = .ok prepared.bindings ∧
      prepared.statement = statement.takeBytes clause.keyword ++ (Keyword.values ++
        ' ' :: parenthesized (List.replicate prepared.bindings.length ['?'])) := by
  unfold prepare at prepares
  cases located : locateValues statement 0 with
  | error error =>
    rw [located] at prepares
    cases prepares
  | ok clause =>
    cases bound : bindAll policy (valueItems (clause.list.content statement)) with
    | error error =>
      simp only [located, bind, Except.bind, bound] at prepares
      cases prepares
    | ok bindings =>
      simp only [located, bind, Except.bind, bound] at prepares
      cases prepares
      exact ⟨clause, rfl, bound, List.append_assoc _ _ _⟩

/-- Every value has its own binding. -/
theorem forall₂_of_bindAll
    {tokens : List Text}
    {bindings : List Binding}
    (bound : bindAll policy tokens = .ok bindings) :
    List.Forall₂ (fun token binding => bindValue policy token = .ok binding) tokens bindings := by
  induction tokens generalizing bindings with
  | nil =>
    cases bound
    exact .nil
  | cons token rest inductionHypothesis =>
    obtain ⟨binding, others, rfl, first, later⟩ := Written.exists_of_bindAll_cons bound
    exact .cons first (inductionHypothesis later)

/-- Placeholders are read back as values, and match no parentheses outside. -/
theorem placeholders (count : Nat) :
    valueItems (List.intercalate [',', ' '] (List.replicate count ['?'])) =
        List.replicate count ['?'] ∧
      Parenthesis.tracker.Quiet (.plain, 0)
        (List.intercalate [',', ' '] (List.replicate count ['?'])) (.plain, 0) := by
  have placeholder : IsValue ['?'] :=
    { written := .of_forall (List.forall_mem_singleton.mpr rfl)
      nonempty := List.cons_ne_nil _ _
      trimmed := rfl }
  let parts : List (Part IsValue) :=
    Part.spaced Blank.space (List.replicate count ⟨Blank.empty, ['?'], placeholder, Blank.empty⟩)
  have texts : parts.map Part.text = List.replicate count ['?'] := by
    rw [Part.map_text_spaced, List.map_replicate]
  have list : listed parts = List.intercalate [',', ' '] (List.replicate count ['?']) := by
    rw [listed_spaced, List.map_replicate]
    rfl
  rw [← list]
  exact ⟨(valueItems_listed parts).trans texts, quiet_values parts⟩

/-- The word VALUES is found in a prepared statement where it was found in the statement. -/
theorem locate?_prepared
    {front word back rest : Text}
    (same : Text.sameLetters Keyword.values word = true)
    (found : Keyword.locate? Keyword.values (front ++ (word ++ back)) 0 = some front.byteLength)
    (endsBehind : Keyword.endsBeside rest.head? = true) :
    Keyword.locate? Keyword.values (front ++ (Keyword.values ++ rest)) 0 =
      some front.byteLength := by
  have once : ∀ later ∈ ['A', 'L', 'U', 'E', 'S'], Text.sameLetter later 'V' = false := by
    simp only [List.forall_mem_cons]
    exact ⟨rfl, rfl, rfl, rfl, rfl, List.forall_mem_nil _⟩
  obtain ⟨first, later, rfl, sameFirst, -⟩ := (Text.sameLetters_cons_iff _ _ _).mp same
  have search : Keyword.locateFrom? Keyword.values 0 .plain none 0
      (front ++ first :: (later ++ back)) = some (0 + front.byteLength) := by
    rw [Nat.zero_add]
    exact found
  -- the word can begin behind the same character
  obtain ⟨before, behind, whole, -, place, -, begun⟩ :=
    Keyword.exists_append_of_locateFrom? (Nat.le_refl 0) search
  obtain ⟨rfl, -⟩ := Text.append_inj_of_byteLength whole (Nat.add_left_cancel place)
  rw [Keyword.begins_eq_and, Bool.and_eq_true] at begun
  have again := Keyword.begins_append (Text.sameLetters_self Keyword.values) _ rest begun.1
    endsBehind
  rw [← Nat.zero_add front.byteLength]
  exact Keyword.locateFrom?_append_of_begins rfl once sameFirst again search

/-- A prepared statement is read back: its VALUES clause has its keyword where the statement has it,
behind the same text, and ends the prepared statement.  It lists a placeholder for each binding, and
each binding is that of the value at its place in the statement. -/
theorem prepare_reads_back
    (prepares : prepare policy statement = .ok prepared) :
    ∃ clause again : ValuesClause,
      locateValues statement 0 = .ok clause ∧
      locateValues prepared.statement 0 = .ok again ∧
      again.keyword = clause.keyword ∧
      prepared.statement.takeBytes again.keyword = statement.takeBytes clause.keyword ∧
      valueItems (again.list.content prepared.statement) =
        List.replicate prepared.bindings.length ['?'] ∧
      again.list.closing + 1 = prepared.statement.byteLength ∧
      List.Forall₂ (fun token binding => bindValue policy token = .ok binding)
        (valueItems (clause.list.content statement)) prepared.bindings := by
  obtain ⟨clause, located, bound, written⟩ := exists_clause_of_prepare prepares
  have found := locate?_of_locateValues located
  obtain ⟨front, word, back, rfl, place, same, plain⟩ := Keyword.exists_append_of_locate? found
  obtain ⟨items, balanced⟩ := placeholders prepared.bindings.length
  rw [place] at found
  rw [place, Text.takeBytes_byteLength_append, parenthesized] at written
  generalize List.intercalate [',', ' '] (List.replicate prepared.bindings.length ['?']) = list
    at written items balanced
  have whole : prepared.statement =
      front ++ ((Keyword.values ++ [' ']) ++ '(' :: (list ++ [')'])) := by
    rw [written, List.append_assoc]
    rfl
  have foundAgain : Keyword.locate? Keyword.values
      (front ++ ((Keyword.values ++ [' ']) ++ '(' :: (list ++ [')']))) 0 =
        some front.byteLength := by
    rw [List.append_assoc]
    exact locate?_prepared same found rfl
  have noParenthesis : ∀ char ∈ Keyword.values ++ [' '], (char == '(') = false := by
    intro char member
    rw [beq_eq_false_iff_ne]
    rintro rfl
    exact absurd member (by decide)
  have again := locateValues_append foundAgain noParenthesis balanced
  have content := Written.content_append (front ++ (Keyword.values ++ [' '])) list []
  rw [List.append_assoc] at content
  rw [whole]
  refine ⟨clause, _, located, again, place.symm, ?_, ?_, ?_, forall₂_of_bindAll bound⟩
  · rw [place, Text.takeBytes_byteLength_append, Text.takeBytes_byteLength_append]
  · rw [content, items]
  · simp only [Text.byteLength_append, Text.byteLength_cons, Text.byteLength_nil]
    have size : '('.utf8Size = 1 := rfl
    have sizeClosing : ')'.utf8Size = 1 := rfl
    omega

/-- The word VALUES may stand in front of the clause in quotes, and as a part of other words. -/
theorem prepare_reads_back_of_other_words :
    let policy : LargeTextPolicy := {}
    let statement : Text := "INSERT INTO \"VALUES\" (VALUES_B, C) values('a, b' , 7) ;".toList
    let prepared : PreparedInsert :=
      { statement := "INSERT INTO \"VALUES\" (VALUES_B, C) VALUES (?, ?)".toList
        bindings := [.text "a, b".toList, .long 7] }
    prepare policy statement = .ok prepared ∧
      ∃ clause again : ValuesClause,
        locateValues statement 0 = .ok clause ∧
        locateValues prepared.statement 0 = .ok again ∧
        again.keyword = clause.keyword ∧
        prepared.statement.takeBytes again.keyword = statement.takeBytes clause.keyword ∧
        valueItems (again.list.content prepared.statement) = [['?'], ['?']] ∧
        again.list.closing + 1 = prepared.statement.byteLength ∧
        List.Forall₂ (fun token binding => bindValue policy token = .ok binding)
          (valueItems (clause.list.content statement)) prepared.bindings := by
  intro policy statement prepared
  have prepares : prepare policy statement = .ok prepared := by decide +kernel
  exact ⟨prepares, prepare_reads_back prepares⟩

end Insert
end SqlDump
