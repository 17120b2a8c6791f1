import SqlDump.Proofs.InsertParts
import SqlDump.Proofs.RemovedPair

/-!
# Lists that are split again

The items of a list stand side by side in it: no comma separates inside an item, and every item but
the last ends where a list starts.  Items that are left out leave the others so, and so does white
space.  Any items of a list are therefore the items of the list that they make.
-/

namespace SqlDump

open Unicode (isWhiteSpace)

namespace Nesting

variable {σ : Type} {nesting : Nesting σ}

/-- A kind of lists in which a comma separates only where a list could start anew, and in which
white space has no effect. -/
structure Restarts (nesting : Nesting σ) : Prop where
  separates_start : nesting.separates nesting.start = true
  eq_start : ∀ state, nesting.separates state = true → state = nesting.start
  next_comma : nesting.next nesting.start ',' = nesting.start
  next_blank : ∀ state char, isWhiteSpace char = true → nesting.next state char = state

/-- Leaving out pieces leaves the others aligned. -/
theorem Aligned.sublist
    {pieces kept : List Text}
    {state : σ}
    (aligned : nesting.Aligned pieces state)
    (sublist : kept.Sublist pieces) :
    ∃ last, nesting.Aligned kept last := by
  induction aligned generalizing kept with
  | nil =>
    rw [List.sublist_nil.mp sublist]
    exact ⟨_, .nil⟩
  | @last piece state quiet =>
    rcases List.sublist_singleton.mp sublist with rfl | rfl
    · exact ⟨_, .nil⟩
    · exact ⟨state, .last quiet⟩
  | cons quiet later inductionHypothesis =>
    cases sublist with
    | cons _ without => exact inductionHypothesis without
    | cons_cons _ others =>
      obtain ⟨last, aligned⟩ := inductionHypothesis others
      exact ⟨last, .cons quiet aligned⟩

theorem Aligned.map_trim
    {pieces : List Text}
    {state : σ}
    (restarts : nesting.Restarts)
    (aligned : nesting.Aligned pieces state) :
    nesting.Aligned (pieces.map Text.trim) state := by
  have stays : ∀ state char, isWhiteSpace char = true → nesting.tracker.next state char = state :=
    restarts.next_blank
  induction aligned with
  | nil => exact .nil
  | last quiet => exact .last (quiet.trim stays)
  | cons quiet later inductionHypothesis => exact .cons (quiet.trim stays) inductionHypothesis

/-- The first piece of a list is quiet.  It is the whole list, or ends at a comma that separates it
from the others. -/
theorem exists_quiet_of_piecesFrom
    {state : σ}
    {text piece : Text}
    {pieces : List Text}
    (cut : nesting.piecesFrom state text = piece :: pieces) :
    ∃ last, nesting.tracker.Quiet state piece last ∧
      (pieces = [] ∧ text = piece ∨
        ∃ rest, text = piece ++ ',' :: rest ∧ nesting.separates last = true ∧
          nesting.piecesFrom (nesting.next last ',') rest = pieces) := by
  induction text generalizing state piece with
  | nil =>
    obtain ⟨rfl, rfl⟩ := List.cons.inj cut
    exact ⟨state, .nil state, .inl ⟨rfl, rfl⟩⟩
  | cons char rest inductionHypothesis =>
    rw [piecesFrom] at cut
    split at cut
    · rename_i separating
      obtain ⟨rfl, separates⟩ := separating
      obtain ⟨rfl, rfl⟩ := List.cons.inj cut
      exact ⟨state, .nil state, .inr ⟨rest, rfl, separates, rfl⟩⟩
    · rename_i kept
      obtain ⟨first, others, cutRest⟩ :=
        List.exists_cons_of_ne_nil (nesting.piecesFrom_ne_nil (nesting.next state char) rest)
      rw [cutRest] at cut
      obtain ⟨rfl, rfl⟩ := List.cons.inj cut
      have silent : nesting.tracker.reacts state char = false := by
        simpa [tracker] using kept
      obtain ⟨last, quiet, behind⟩ := inductionHypothesis cutRest
      refine ⟨last, .cons silent quiet, ?_⟩
      rcases behind with ⟨final, rfl⟩ | ⟨later, rfl, separates, cutLater⟩
      · exact .inl ⟨final, rfl⟩
      · exact .inr ⟨later, rfl, separates, cutLater⟩

/-- A list is cut into aligned pieces, and ends in the state that the last of them ends in. -/
theorem Restarts.aligned_piecesFrom
    (restarts : nesting.Restarts)
    {text : Text}
    {pieces : List Text}
    (cut : nesting.piecesFrom nesting.start text = pieces) :
    nesting.Aligned pieces (text.foldl nesting.next nesting.start) := by
  induction pieces generalizing text with
  | nil => exact absurd cut (nesting.piecesFrom_ne_nil _ _)
  | cons piece pieces inductionHypothesis =>
    obtain ⟨last, quiet, ⟨rfl, rfl⟩ | ⟨rest, rfl, separates, cutRest⟩⟩ :=
      exists_quiet_of_piecesFrom cut
    · obtain rfl := quiet.eq_foldl
      exact .last quiet
    · obtain rfl := restarts.eq_start last separates
      rw [restarts.next_comma] at cutRest
      have ends : piece.foldl nesting.next nesting.start = nesting.start := quiet.eq_foldl.symm
      rw [List.foldl_append, ends, List.foldl_cons, restarts.next_comma]
      exact .cons quiet (inductionHypothesis cutRest)

/-- A space in front of pieces leaves them aligned. -/
theorem Aligned.map_space
    {pieces : List Text}
    {state : σ}
    (restarts : nesting.Restarts)
    (aligned : nesting.Aligned pieces state) :
    nesting.Aligned (pieces.map ([' '] ++ ·)) state := by
  have space {piece : Text} {last : σ} (quiet : nesting.tracker.Quiet nesting.start piece last) :
      nesting.tracker.Quiet nesting.start ([' '] ++ piece) last :=
    .stay (restarts.next_blank _ ' ' rfl) rfl quiet
  induction aligned with
  | nil => exact .nil
  | last quiet => exact .last (space quiet)
  | cons quiet later inductionHypothesis => exact .cons (space quiet) inductionHypothesis

/-- Only the empty list has no items. -/
theorem eq_nil_of_items (nesting : Nesting σ) {text : Text} (none : nesting.items text = []) :
    text = [] := by
  have whole := nesting.intercalate_piecesFrom nesting.start text
  unfold items dropEmptyLast at none
  split at none
  · rename_i empty
    obtain ⟨front, pieces⟩ := List.getLast?_eq_some_iff.mp empty
    rw [pieces, List.dropLast_concat, List.map_eq_nil_iff] at none
    rw [pieces, none] at whole
    exact whole.symm
  · rw [List.map_eq_nil_iff] at none
    exact absurd none (nesting.piecesFrom_ne_nil _ _)

/-- The items of a list are aligned and trimmed. -/
theorem Restarts.aligned_items (restarts : nesting.Restarts) (text : Text) :
    (∃ last, nesting.Aligned (nesting.items text) last) ∧
      ∀ item ∈ nesting.items text, item.trim = item := by
  have pieces : nesting.Aligned (nesting.piecesFrom nesting.start text) _ :=
    restarts.aligned_piecesFrom rfl
  obtain ⟨last, aligned⟩ := pieces.sublist (dropEmptyLast_sublist _)
  refine ⟨⟨last, aligned.map_trim restarts⟩, ?_⟩
  rw [items, List.forall_mem_map]
  exact fun piece _ => piece.trim_trim

/-- Aligned items are read back from the list that they make with a space behind every comma, unless
there is only one and it is empty: the list of that one is empty, and has no items. -/
theorem Aligned.items_intercalate_iff
    {kept : List Text}
    {state : σ}
    (restarts : nesting.Restarts)
    (aligned : nesting.Aligned kept state)
    (trimmed : ∀ item ∈ kept, item.trim = item) :
    nesting.items (List.intercalate [',', ' '] kept) = kept ↔ kept ≠ [[]] := by
  cases kept with
  | nil => exact iff_of_true rfl (List.cons_ne_nil _ _).symm
  | cons item rest =>
    have spaced : nesting.Aligned (item :: rest.map ([' '] ++ ·)) state := by
      cases aligned with
      | last quiet => exact .last quiet
      | cons quiet later => exact .cons quiet (later.map_space restarts)
    have pieces := spaced.piecesFrom_intercalate restarts.separates_start restarts.next_comma
      (List.cons_ne_nil _ _)
    rw [Insert.intercalate_comma_append] at pieces
    have last : (item :: rest.map ([' '] ++ ·)).getLast? = some [] ↔ item :: rest = [[]] := by
      rw [List.getLast?_cons, List.getLast?_map]
      cases final : rest.getLast? with
      | none => simp [List.getLast?_eq_none_iff.mp final]
      | some other =>
        have others : rest ≠ [] := List.ne_nil_of_mem (List.mem_of_getLast? final)
        simp [others]
    have trimmedAll : (item :: rest.map ([' '] ++ ·)).map Text.trim = item :: rest := by
      obtain ⟨first, others⟩ := List.forall_mem_cons.mp trimmed
      have behindSpace : ∀ other ∈ rest, Text.trim ([' '] ++ other) = id other := fun other member =>
        (Text.trim_append_of_isBlank _ _ Text.isBlank_space).trans (others other member)
      rw [List.map_cons, first, List.map_map]
      exact congrArg (item :: ·) ((List.map_congr_left behindSpace).trans (List.map_id rest))
    rw [items, pieces, dropEmptyLast]
    split
    · rename_i empty
      obtain ⟨rfl, rfl⟩ := List.cons.inj (last.mp empty)
      exact iff_of_false (by simp) fun other => other rfl
    · rename_i visible
      rw [last] at visible
      exact iff_of_true trimmedAll visible

end Nesting

theorem ValueNesting.restarts : ValueNesting.nesting.Restarts where
  separates_start := rfl
  eq_start state separates := by
    obtain ⟨inString, depth⟩ := state
    simp only [nesting, Bool.and_eq_true, Bool.not_eq_true', beq_iff_eq] at separates
    obtain ⟨rfl, rfl⟩ := separates
    rfl
  next_comma := rfl
  next_blank state char white := by
    have ordinary := isDelimiter_eq_false.mp (isDelimiter_of_isWhiteSpace white)
    simp [nesting, next, ordinary]

theorem identifierNesting.restarts : identifierNesting.Restarts where
  separates_start := rfl
  eq_start inIdentifier separates := by simpa [identifierNesting] using separates
  next_comma := rfl
  next_blank inIdentifier char white := by
    have ordinary := isDelimiter_eq_false.mp (isDelimiter_of_isWhiteSpace white)
    simp [identifierNesting, ordinary]

/-- A way of splitting lists that loses nothing and that can be repeated on any of the items. -/
structure SplitsStably (split : Text → List Text) : Prop where
  /-- The items, with white space around them and commas between them, are the list up to a final
  comma. -/
  lossless : ∀ list, ∃ (pieces : List Text) (final : Text), split list = pieces.map Text.trim ∧
    list = List.intercalate [','] pieces ++ final ∧ (final = [] ∨ final = [','])
  /-- Items that are kept in their order are the items of the list that they make, unless an empty
  one is all that is kept. -/
  stable : ∀ list kept, kept.Sublist (split list) →
    (split (List.intercalate [',', ' '] kept) = kept ↔ kept ≠ [[]])

/-- Lists of values and lists of identifiers are split stably, whatever stands in them. -/
theorem items_splitsStably : SplitsStably valueItems ∧ SplitsStably identifierItems := by
  have stably {σ : Type} {nesting : Nesting σ} (restarts : nesting.Restarts) :
      SplitsStably nesting.items := by
    constructor
    · intro list
      by_cases none : nesting.items list = []
      · exact ⟨[], [], none, nesting.eq_nil_of_items none, .inl rfl⟩
      · exact nesting.exists_pieces none
    · intro list kept sublist
      obtain ⟨⟨last, aligned⟩, trimmed⟩ := restarts.aligned_items list
      obtain ⟨keptLast, alignedKept⟩ := aligned.sublist sublist
      exact alignedKept.items_intercalate_iff restarts fun item member =>
        trimmed item (sublist.subset member)
  exact ⟨stably ValueNesting.restarts, stably identifierNesting.restarts⟩

end SqlDump
