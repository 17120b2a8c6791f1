import SqlDump.Proofs.KeywordOccurrence
import SqlDump.Proofs.Renaming

/-!
# Keywords in renamed text

Rewriting dates renames words and touches no quotes.  A keyword that shares no letters with the
word TIMESTAMP where it could matter stands in the renamed text only where it stood before.
-/

namespace SqlDump
namespace DateLiteral
namespace Renamed

open SqlDump.Keyword

variable {inRun : Bool} {text after : Text}

theorem region_next_of_isAlpha
    {char : Char}
    (letter : char.isAlpha = true)
    (region : Region) :
    region.next char = region :=
  Region.after_of_forall (List.forall_mem_singleton.mpr (ne_quote_of_isAlpha letter)) region

/-- Renaming words opens and closes no quotes. -/
theorem region_after (renamed : Renamed inRun text after) (region : Region) :
    region.after after = region.after text := by
  induction renamed generalizing region with
  | nil => rfl
  | keep later inductionHypothesis =>
    rw [Region.after_cons, Region.after_cons, inductionHypothesis]
  | first isLetter later inductionHypothesis =>
    have word : region.after Keyword.timestamp = region :=
      Region.after_of_forall
        (fun char member => ne_quote_of_isAlpha (isAlpha_of_mem_timestamp char member)) region
    rw [Region.after_append, word, Region.after_cons, region_next_of_isAlpha isLetter,
      inductionHypothesis]
  | more isLetter later inductionHypothesis =>
    rw [Region.after_cons, region_next_of_isAlpha isLetter, inductionHypothesis]

/-- A keyword that does not start like TIMESTAMP, and holds no T, begins in a renamed text only
where it began before. -/
theorem begins_of_renamed
    {keyword : Text}
    (other : ∀ letter ∈ keyword, Text.sameLetter letter 'T' = false)
    (renamed : Renamed false text after)
    (begun : begins keyword none after = true) :
    begins keyword none text = true := by
  induction keyword generalizing text after with
  | nil =>
    rw [begins_nil] at begun ⊢
    cases renamed with
    | nil => exact begun
    | keep later => exact begun
    | first isLetter later => cases begun
  | cons letter keyword inductionHypothesis =>
    cases renamed with
    | nil => exact begun
    | keep later =>
      rw [begins_cons_cons, Bool.and_eq_true] at begun ⊢
      refine ⟨begun.1, ?_⟩
      exact inductionHypothesis (fun next member => other next (List.mem_cons_of_mem _ member))
        later begun.2
    | first isLetter later =>
      rw [Keyword.timestamp, List.cons_append, begins_cons_cons,
        other letter List.mem_cons_self] at begun
      cases begun

/-- What is absent is absent behind the first letter. -/
theorem locateFrom?_of_cons
    {keyword : Text}
    {char : Char}
    (letter : char.isAlpha = true)
    {region : Region}
    {previous : Option Char}
    {position : Nat}
    {rest : Text}
    (absent : locateFrom? keyword 0 region previous position (char :: rest) = none) :
    locateFrom? keyword 0 region (some char) (position + char.utf8Size) rest = none := by
  rw [locateFrom?, if_neg (Nat.not_lt_zero _), region_next_of_isAlpha letter] at absent
  split at absent
  · cases absent
  · exact absent

/-- Renaming words brings no such keyword about. -/
theorem locateFrom?_of_renamed
    {letter : Char}
    {keyword : Text}
    (other : ∀ next ∈ letter :: keyword, Text.sameLetter next 'T' = false)
    (foreign : ∀ char ∈ Keyword.timestamp, Text.sameLetter letter char = false)
    (renamed : Renamed inRun text after)
    {region : Region}
    {previous neighbour : Option Char}
    {position place : Nat}
    (outside : inRun = false → endsBeside neighbour = endsBeside previous)
    (inside : inRun = true → endsBeside neighbour = false)
    (absent : locateFrom? (letter :: keyword) 0 region previous position text = none) :
    locateFrom? (letter :: keyword) 0 region neighbour place after = none := by
  induction renamed generalizing region previous neighbour position place with
  | nil => rfl
  | @keep inRun char rest after later inductionHypothesis =>
    rw [locateFrom?, if_neg (Nat.not_lt_zero _)] at absent ⊢
    split at absent
    · cases absent
    · rename_i refused
      rw [if_neg]
      · exact inductionHypothesis (fun _ => rfl) (fun running => by cases running) absent
      · rintro ⟨plain, noString, noIdentifier, begun⟩
        rw [begins_eq_and, Bool.and_eq_true] at begun
        cases inRun with
        | false =>
          refine refused ⟨plain, noString, noIdentifier, ?_⟩
          rw [begins_eq_and, ← outside rfl, begun.1, Bool.true_and]
          exact begins_of_renamed other (.keep later) begun.2
        | true =>
          rw [inside rfl] at begun
          exact Bool.false_ne_true begun.1
  | first isLetter later inductionHypothesis =>
    have passed : ∀ char ∈ Keyword.timestamp,
        char ≠ '\'' ∧ char ≠ '"' ∧ Text.sameLetter letter char = false := by
      intro char member
      obtain ⟨noString, noIdentifier⟩ :=
        ne_quote_of_isAlpha (isAlpha_of_mem_timestamp char member)
      exact ⟨noString, noIdentifier, foreign char member⟩
    rw [locateFrom?_pass letter keyword 0 place neighbour _ _ (Nat.zero_le _) passed]
    exact inductionHypothesis (fun outside => by cases outside) (fun _ => rfl)
      (locateFrom?_of_cons isLetter absent)
  | more isLetter later inductionHypothesis =>
    exact inductionHypothesis (fun outside => by cases outside) inside
      (locateFrom?_of_cons isLetter absent)

end Renamed

/-- Rewriting dates does not bring the word VALUES about. -/
theorem isAbsent_values_normalize
    {text : Text}
    (absent : Keyword.IsAbsent Keyword.values text) :
    Keyword.IsAbsent Keyword.values (normalize text) := by
  have apart : ∀ letter ∈ Keyword.values, Text.sameLetter letter 'T' = false := by
    simpa using show Keyword.values.all (!Text.sameLetter · 'T') = true from rfl
  have foreign : ∀ char ∈ Keyword.timestamp, Text.sameLetter 'V' char = false := by
    simpa using show Keyword.timestamp.all (!Text.sameLetter 'V' ·) = true from rfl
  exact (Renamed.normalizeAfter none text).locateFrom?_of_renamed apart foreign (fun _ => rfl)
    (fun running => by cases running) absent

end DateLiteral
end SqlDump
