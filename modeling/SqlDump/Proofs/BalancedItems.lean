import SqlDump.Proofs.ListSplitting
import SqlDump.Proofs.OversizedBindings

/-!
# Balanced items

The parenthesis that closes a list is found by one scan, and the list is cut into items by another,
which counts parentheses anew and knows no quoted identifiers.  In a list without quoted identifiers
both are at every point in the same string and at the same depth.  So the items are balanced, as the
list is.
-/

namespace SqlDump

open Unicode (isWhiteSpace)

namespace ValueNesting

theorem eq_start_of_place {state : ValueNesting} (place : state.place = (.plain, 0)) :
    state = nesting.start := by
  obtain ⟨inString, depth⟩ := state
  cases inString with
  | false =>
    obtain rfl : depth = 0 := (Prod.mk.inj place).2
    rfl
  | true => cases place

end ValueNesting

namespace Parenthesis

open ValueNesting (place place_foldl_start)

theorem next_blank (state : Region × Nat) (char : Char) (white : isWhiteSpace char = true) :
    tracker.next state char = state := by
  obtain ⟨region, depth⟩ := state
  have ordinary := isDelimiter_eq_false.mp (isDelimiter_of_isWhiteSpace white)
  cases region <;> simp [tracker, Region.next, ordinary]

theorem Balanced.trim {text : Text} (balanced : Balanced text) : Balanced text.trim :=
  Tracker.Quiet.trim next_blank balanced

/-- Of a balanced list without quoted identifiers every piece is balanced. -/
theorem balanced_of_aligned
    {pieces : List Text}
    {state : ValueNesting}
    (aligned : ValueNesting.nesting.Aligned pieces state)
    (balanced : Balanced (List.intercalate [','] pieces))
    (noIdentifier : Region.plain.showsIdentifier (List.intercalate [','] pieces) = false) :
    ∀ piece ∈ pieces, Balanced piece := by
  induction aligned with
  | nil => exact List.forall_mem_nil _
  | last quiet =>
    rw [List.intercalate_singleton] at balanced
    exact List.forall_mem_singleton.mpr balanced
  | @cons piece pieces state quiet later inductionHypothesis =>
    by_cases final : pieces = []
    · rw [final, List.intercalate_singleton] at balanced
      rw [final]
      exact List.forall_mem_singleton.mpr balanced
    · rw [List.intercalate_cons_of_ne_nil final, List.append_assoc] at balanced noIdentifier
      rw [Region.showsIdentifier_append, Bool.or_eq_false_iff] at noIdentifier
      have ends : piece.foldl tracker.next (.plain, 0) = (.plain, 0) :=
        (place_foldl_start noIdentifier.1).trans (congrArg place quiet.eq_foldl.symm)
      obtain ⟨first, behind⟩ := Tracker.quiet_append_iff.mp balanced
      rw [ends] at first behind
      have plain : Region.plain.after piece = .plain := region_after_of_quiet first
      rw [plain] at noIdentifier
      cases behind with
      | cons silent others =>
        exact List.forall_mem_cons.mpr ⟨first, inductionHypothesis others noIdentifier.2⟩

variable {text : Text} {opening found : Nat}

/-- In the list between a parenthesis and the one that closes it, without quoted identifiers, the
scan that cuts it into items counts no parenthesis that closes more than was opened, and ends outside
strings with all parentheses closed.  Every item is balanced by itself, so that in parentheses it is
closed where it ends. -/
theorem closing_valueItems
    (closes : closing text opening = .ok found)
    (noIdentifier :
      Region.plain.showsIdentifier (ListSpan.content ⟨opening, found⟩ text) = false) :
    (∀ front back, ListSpan.content ⟨opening, found⟩ text = front ++ ')' :: back →
      (front.foldl ValueNesting.next {}).inString = false →
      0 < (front.foldl ValueNesting.next {}).depth) ∧
    (ListSpan.content ⟨opening, found⟩ text).foldl ValueNesting.next {} = {} ∧
    ∀ item ∈ valueItems (ListSpan.content ⟨opening, found⟩ text),
      closing ('(' :: (item ++ [')'])) 0 = .ok (1 + item.byteLength) := by
  obtain ⟨front, list, back, rfl, rfl, rfl, quiet⟩ := exists_quiet_of_closing closes
  rw [Insert.Written.content_append] at noIdentifier ⊢
  have ends : list.foldl ValueNesting.next {} = {} := by
    apply ValueNesting.eq_start_of_place
    rw [← place_foldl_start noIdentifier]
    exact quiet.eq_foldl.symm
  refine ⟨?_, ends, ?_⟩
  · rintro before behind rfl outside
    rw [Region.showsIdentifier_append, Bool.or_eq_false_iff] at noIdentifier
    obtain ⟨-, later⟩ := Tracker.quiet_append_iff.mp quiet
    cases later with
    | cons silent others =>
      rw [Nat.pos_iff_ne_zero]
      intro closed
      have surplus : before.foldl tracker.next (.plain, 0) = (.plain, 0) := by
        rw [place_foldl_start noIdentifier.1, place, outside, closed]
        rfl
      rw [surplus] at silent
      cases silent
  · intro item member
    obtain ⟨piece, pieceMember, rfl⟩ := ValueNesting.nesting.exists_piece_of_items member
    have whole := ValueNesting.nesting.intercalate_piecesFrom ValueNesting.nesting.start list
    have aligned : ValueNesting.nesting.Aligned
        (ValueNesting.nesting.piecesFrom ValueNesting.nesting.start list) _ :=
      ValueNesting.restarts.aligned_piecesFrom rfl
    rw [← whole] at quiet noIdentifier
    have balanced := (balanced_of_aligned aligned quiet noIdentifier piece pieceMember).trim
    exact closing_append [] piece.trim [] balanced

/-- Parentheses and quotes in strings, and a final comma, leave the items balanced. -/
theorem closing_valueItems_of_strings :
    let text : Text := "VALUES ( 'a'')\"(' , f(1, (2)),) ;".toList
    let list : Text := ListSpan.content ⟨7, 30⟩ text
    closing text 7 = .ok 30 ∧ Region.plain.showsIdentifier list = false ∧
      list.foldl ValueNesting.next {} = {} ∧
      valueItems list = ["'a'')\"('".toList, "f(1, (2))".toList] ∧
      closing "('a'')\"(')".toList 0 = .ok 9 ∧ closing "(f(1, (2)))".toList 0 = .ok 10 := by
  intro text list
  have closes : closing text 7 = .ok 30 := by decide +kernel
  have noIdentifier : Region.plain.showsIdentifier list = false := by decide +kernel
  have items : valueItems list = ["'a'')\"('".toList, "f(1, (2))".toList] := by decide +kernel
  obtain ⟨-, ends, balanced⟩ := closing_valueItems closes noIdentifier
  have string := balanced "'a'')\"('".toList (by rw [items]; exact List.mem_cons_self)
  have call := balanced "f(1, (2))".toList
    (by rw [items]; exact List.mem_cons_of_mem _ List.mem_cons_self)
  exact ⟨closes, noIdentifier, ends, items, string, call⟩

end Parenthesis
end SqlDump
