import SqlDump.Insert.Layout
import SqlDump.Sql.ItemList
import SqlDump.Sql.Quoted

/-!
# What a scan passes over

The column list, the value list, the parentheses that close them and the parenthesis behind the
table are each found by a scan of its own, with rules for quotes of its own.  Each of these scans
is a tracker: its state moves with every character, and it reacts to some characters in some of
its states.  A part of a statement is quiet when it takes a tracker from one state to another
without a reaction.  What such a scan finds behind a quiet part does not depend on that part.
-/

namespace SqlDump

open Unicode (isWhiteSpace)

/-- A scan of a text: how its state moves, and where it reacts. -/
structure Tracker (σ : Type) where
  next : σ → Char → σ
  reacts : σ → Char → Bool

namespace Tracker

variable {σ : Type} {tracker : Tracker σ}

/-! ## Quiet texts -/

/-- A text takes a tracker from one state to another, and the tracker reacts to nothing in it. -/
inductive Quiet (tracker : Tracker σ) : σ → Text → σ → Prop where
  | nil (state : σ) : Quiet tracker state [] state
  | cons {state last : σ} {char : Char} {rest : Text}
      (silent : tracker.reacts state char = false)
      (later : Quiet tracker (tracker.next state char) rest last) :
      Quiet tracker state (char :: rest) last

theorem Quiet.append
    {state between last : σ}
    {front back : Text}
    (first : tracker.Quiet state front between)
    (second : tracker.Quiet between back last) :
    tracker.Quiet state (front ++ back) last := by
  induction first with
  | nil => exact second
  | cons silent later inductionHypothesis => exact .cons silent (inductionHypothesis second)

/-- A character that changes nothing is quiet. -/
theorem Quiet.stay
    {state last : σ}
    {char : Char}
    {rest : Text}
    (stays : tracker.next state char = state)
    (silent : tracker.reacts state char = false)
    (later : tracker.Quiet state rest last) :
    tracker.Quiet state (char :: rest) last :=
  .cons silent (by rwa [stays])

theorem Quiet.of_forall
    {state : σ}
    {text : Text}
    (stays : ∀ char ∈ text, tracker.next state char = state)
    (silent : ∀ char ∈ text, tracker.reacts state char = false) :
    tracker.Quiet state text state := by
  induction text with
  | nil => exact .nil state
  | cons char rest inductionHypothesis =>
    refine .stay (stays char List.mem_cons_self) (silent char List.mem_cons_self) ?_
    apply inductionHypothesis
    · exact fun other member => stays other (List.mem_cons_of_mem _ member)
    · exact fun other member => silent other (List.mem_cons_of_mem _ member)

/-- A quiet text ends in the state that its characters lead to. -/
theorem Quiet.eq_foldl
    {state last : σ}
    {text : Text}
    (quiet : tracker.Quiet state text last) :
    last = text.foldl tracker.next state := by
  induction quiet with
  | nil => rfl
  | cons silent later inductionHypothesis => exact inductionHypothesis

/-- Two texts are quiet in a row if and only if each is, the second from where the first ends. -/
theorem quiet_append_iff {state last : σ} {front back : Text} :
    tracker.Quiet state (front ++ back) last ↔
      tracker.Quiet state front (front.foldl tracker.next state) ∧
        tracker.Quiet (front.foldl tracker.next state) back last := by
  refine ⟨fun quiet => ?_, fun quiet => quiet.1.append quiet.2⟩
  induction front generalizing state with
  | nil => exact ⟨.nil state, quiet⟩
  | cons char rest inductionHypothesis =>
    cases quiet with
    | cons silent later =>
      obtain ⟨first, second⟩ := inductionHypothesis later
      exact ⟨.cons silent first, second⟩

/-- Trimming a text takes it from the same state to the same state, if white space moves none. -/
theorem Quiet.trim
    {state last : σ}
    {text : Text}
    (stays : ∀ state char, isWhiteSpace char = true → tracker.next state char = state)
    (quiet : tracker.Quiet state text last) :
    tracker.Quiet state text.trim last := by
  have still {blank : Text} (white : blank.isBlank = true) (state : σ) :
      blank.foldl tracker.next state = state := by
    induction blank with
    | nil => rfl
    | cons char rest inductionHypothesis =>
      obtain ⟨first, others⟩ := List.forall_mem_cons.mp (List.all_eq_true.mp white)
      rw [List.foldl_cons, stays state char first]
      exact inductionHypothesis (List.all_eq_true.mpr others)
  obtain ⟨before, after, beforeBlank, afterBlank, whole⟩ := text.exists_trim_between
  rw [whole, List.append_assoc, quiet_append_iff, quiet_append_iff, still beforeBlank] at quiet
  obtain ⟨-, inner, behind⟩ := quiet
  rwa [behind.eq_foldl, still afterBlank]

/-- What stands between two quiet marks of one kind is hidden from the tracker. -/
structure Hides (tracker : Tracker σ) (mark : Char) (outside inside : σ) : Prop where
  next_opening : tracker.next outside mark = inside
  next_closing : tracker.next inside mark = outside
  next_inside : ∀ char, char ≠ mark → tracker.next inside char = inside
  reacts_outside : tracker.reacts outside mark = false
  reacts_inside : ∀ char, tracker.reacts inside char = false

/-- A doubled mark leaves the quotes and enters them again. -/
theorem Quiet.double
    {mark : Char}
    {outside inside : σ}
    (hides : tracker.Hides mark outside inside)
    (text : Text) :
    tracker.Quiet inside (Quoted.double mark text) inside := by
  induction text with
  | nil => exact .nil inside
  | cons char rest inductionHypothesis =>
    by_cases marked : char = mark
    · rw [Quoted.double, if_pos marked]
      refine .cons (hides.reacts_inside mark) ?_
      rw [hides.next_closing]
      refine .cons hides.reacts_outside ?_
      rwa [hides.next_opening]
    · rw [Quoted.double, if_neg marked]
      exact .stay (hides.next_inside char marked) (hides.reacts_inside char) inductionHypothesis

/-- Quoted text is quiet, whatever it says. -/
theorem Quiet.quote
    {mark : Char}
    {outside inside : σ}
    (hides : tracker.Hides mark outside inside)
    (text : Text) :
    tracker.Quiet outside (Quoted.quote mark text) outside := by
  refine .cons hides.reacts_outside ?_
  rw [hides.next_opening]
  refine (Quiet.double hides text).append ?_
  refine .cons (hides.reacts_inside mark) ?_
  rw [hides.next_closing]
  exact .nil outside

/-- Quiet items make a quiet list when the commas between them are quiet. -/
theorem Quiet.intercalate
    {state : σ}
    {cells : List Text}
    (stays : tracker.next state ',' = state)
    (silent : tracker.reacts state ',' = false)
    (quiet : ∀ cell ∈ cells, tracker.Quiet state cell state) :
    tracker.Quiet state (List.intercalate [','] cells) state := by
  induction cells with
  | nil => exact .nil state
  | cons cell rest inductionHypothesis =>
    have first := quiet cell List.mem_cons_self
    have others := inductionHypothesis fun other member =>
      quiet other (List.mem_cons_of_mem _ member)
    by_cases final : rest = []
    · rwa [final, List.intercalate_singleton]
    · rw [List.intercalate_cons_of_ne_nil final, List.append_assoc]
      exact first.append (.stay stays silent others)

/-! ## The first reaction -/

/-- Byte position of the first character a tracker reacts to, in a text that stands at byte
position `position`. -/
def firstFrom? (tracker : Tracker σ) (state : σ) (position : Nat) : Text → Option Nat
  | [] => none
  | char :: rest =>
    if tracker.reacts state char then some position
    else firstFrom? tracker (tracker.next state char) (position + char.utf8Size) rest

theorem firstFrom?_append
    {state last : σ}
    {front : Text}
    (quiet : tracker.Quiet state front last)
    (position : Nat)
    (back : Text) :
    tracker.firstFrom? state position (front ++ back) =
      tracker.firstFrom? last (position + front.byteLength) back := by
  induction quiet generalizing position with
  | nil => rfl
  | cons silent later inductionHypothesis =>
    rw [List.cons_append, firstFrom?, silent, if_neg Bool.false_ne_true, inductionHypothesis,
      Text.byteLength_cons, Nat.add_assoc]

/-- The first reaction is the one behind a quiet text. -/
theorem firstFrom?_append_cons
    {state last : σ}
    {front : Text}
    {char : Char}
    (quiet : tracker.Quiet state front last)
    (reacts : tracker.reacts last char = true)
    (position : Nat)
    (back : Text) :
    tracker.firstFrom? state position (front ++ char :: back) =
      some (position + front.byteLength) := by
  rw [firstFrom?_append quiet, firstFrom?, if_pos reacts]

/-- A first reaction is found behind a quiet text only. -/
theorem exists_quiet_of_firstFrom?
    {state : σ}
    {position found : Nat}
    {text : Text}
    (reached : tracker.firstFrom? state position text = some found) :
    ∃ (front : Text) (char : Char) (back : Text) (last : σ), text = front ++ char :: back ∧
      found = position + front.byteLength ∧ tracker.Quiet state front last ∧
      tracker.reacts last char = true := by
  induction text generalizing state position with
  | nil => cases reached
  | cons first rest inductionHypothesis =>
    rw [firstFrom?] at reached
    split at reached
    · rename_i reacts
      exact ⟨[], first, rest, state, rfl, (Option.some.inj reached).symm, .nil state, reacts⟩
    · rename_i silent
      obtain ⟨front, char, back, last, rfl, place, quiet, reacts⟩ := inductionHypothesis reached
      refine ⟨first :: front, char, back, last, rfl, ?_, .cons (by simpa using silent) quiet, reacts⟩
      rw [place, Text.byteLength_cons, Nat.add_assoc]

end Tracker

/-! ## Cutting lists -/

namespace Nesting

variable {σ : Type} {nesting : Nesting σ} {state last : σ}

/-- The scan that cuts a list reacts to the commas that separate items. -/
def tracker (nesting : Nesting σ) : Tracker σ where
  next := nesting.next
  reacts state char := char == ',' && nesting.separates state

/-- A quiet text becomes part of the piece behind it. -/
theorem piecesFrom_append
    {front piece : Text}
    {pieces : List Text}
    (quiet : nesting.tracker.Quiet state front last)
    (back : Text)
    (found : nesting.piecesFrom last back = piece :: pieces) :
    nesting.piecesFrom state (front ++ back) = (front ++ piece) :: pieces := by
  induction quiet with
  | nil => exact found
  | @cons state last char rest silent later inductionHypothesis =>
    have kept : ¬(char = ',' ∧ nesting.separates state = true) := by
      simpa [tracker] using silent
    rw [List.cons_append, piecesFrom, if_neg kept]
    exact congrArg (extendFirst char) (inductionHypothesis found)

theorem piecesFrom_of_quiet
    {text : Text}
    (quiet : nesting.tracker.Quiet state text last) :
    nesting.piecesFrom state text = [text] := by
  simpa using piecesFrom_append quiet [] rfl

/-- Pieces that may stand side by side in a list, and the state that the last of them ends in.  No
comma separates inside a piece, and every piece but the last ends where a list starts. -/
inductive Aligned (nesting : Nesting σ) : List Text → σ → Prop where
  | nil : Aligned nesting [] nesting.start
  | last {piece : Text} {state : σ}
      (quiet : nesting.tracker.Quiet nesting.start piece state) :
      Aligned nesting [piece] state
  | cons {piece : Text} {pieces : List Text} {state : σ}
      (quiet : nesting.tracker.Quiet nesting.start piece nesting.start)
      (later : Aligned nesting pieces state) :
      Aligned nesting (piece :: pieces) state

theorem aligned_of_quiet
    {pieces : List Text}
    (quiet : ∀ piece ∈ pieces, nesting.tracker.Quiet nesting.start piece nesting.start) :
    nesting.Aligned pieces nesting.start := by
  induction pieces with
  | nil => exact .nil
  | cons piece pieces inductionHypothesis =>
    obtain ⟨first, others⟩ := List.forall_mem_cons.mp quiet
    exact .cons first (inductionHypothesis others)

/-- Aligned pieces are read back from the list that they make. -/
theorem Aligned.piecesFrom_intercalate
    {pieces : List Text}
    (aligned : nesting.Aligned pieces last)
    (separates : nesting.separates nesting.start = true)
    (stays : nesting.next nesting.start ',' = nesting.start)
    (nonempty : pieces ≠ []) :
    nesting.piecesFrom nesting.start (List.intercalate [','] pieces) = pieces := by
  induction aligned with
  | nil => exact absurd rfl nonempty
  | last quiet =>
    rw [List.intercalate_singleton]
    exact piecesFrom_of_quiet quiet
  | @cons piece pieces state quiet later inductionHypothesis =>
    by_cases final : pieces = []
    · rw [final, List.intercalate_singleton, piecesFrom_of_quiet quiet]
    · have comma : nesting.piecesFrom nesting.start (',' :: List.intercalate [','] pieces) =
          [] :: pieces := by
        rw [piecesFrom, if_pos ⟨rfl, separates⟩, stays, inductionHypothesis final]
      rw [List.intercalate_cons_of_ne_nil final, List.append_assoc]
      simpa using piecesFrom_append quiet _ comma

theorem dropEmptyLast_sublist (pieces : List Text) : (dropEmptyLast pieces).Sublist pieces := by
  unfold dropEmptyLast
  split
  · exact List.dropLast_sublist pieces
  · exact List.Sublist.refl pieces

/-- Every item of a list is one of its pieces, the white space around it aside. -/
theorem exists_piece_of_items
    (nesting : Nesting σ)
    {text item : Text}
    (member : item ∈ nesting.items text) :
    ∃ piece ∈ nesting.piecesFrom nesting.start text, piece.trim = item := by
  obtain ⟨piece, pieceMember, trimmed⟩ := List.mem_map.mp member
  exact ⟨piece, (dropEmptyLast_sublist _).subset pieceMember, trimmed⟩

theorem dropEmptyLast_of_nonempty
    {cells : List Text}
    (nonempty : ∀ cell ∈ cells, cell ≠ []) :
    dropEmptyLast cells = cells := by
  rw [dropEmptyLast, if_neg]
  intro final
  exact nonempty [] (List.mem_of_getLast? final) rfl

/-- The items of a list are its cells, the white space around them aside. -/
theorem items_intercalate
    (nesting : Nesting σ)
    (cells : List Text)
    (separates : nesting.separates nesting.start = true)
    (stays : nesting.next nesting.start ',' = nesting.start)
    (quiet : ∀ cell ∈ cells, nesting.tracker.Quiet nesting.start cell nesting.start)
    (nonempty : ∀ cell ∈ cells, cell ≠ []) :
    nesting.items (List.intercalate [','] cells) = cells.map Text.trim := by
  by_cases empty : cells = []
  · subst empty
    rfl
  · have pieces := (aligned_of_quiet quiet).piecesFrom_intercalate separates stays empty
    rw [items, pieces, dropEmptyLast_of_nonempty nonempty]

end Nesting

/-! ## Matching parentheses -/

namespace Parenthesis

/-- The scan for a closing parenthesis reacts to the one that closes more than was opened. -/
def tracker : Tracker (Region × Nat) where
  next state char :=
    if state.1 = .plain ∧ char = '(' then (state.1, state.2 + 1)
    else if state.1 = .plain ∧ char = ')' then (state.1, state.2 - 1)
    else (state.1.next char, state.2)
  reacts state char := state == (.plain, 0) && char == ')'

theorem closingFrom?_eq_firstFrom? (region : Region) (depth position : Nat) (text : Text) :
    closingFrom? region depth position text =
      tracker.firstFrom? (region, depth) position text := by
  fun_induction closingFrom? region depth position text with
  | case1 => rfl
  | case2 region position char rest closes =>
    obtain ⟨rfl, rfl⟩ := closes
    rfl
  | case3 region position char rest closes depth inductionHypothesis =>
    obtain ⟨rfl, rfl⟩ := closes
    exact inductionHypothesis
  | case4 region depth position char rest closes opens inductionHypothesis =>
    obtain ⟨rfl, rfl⟩ := opens
    rw [inductionHypothesis, Tracker.firstFrom?]
    simp [tracker]
  | case5 region depth position char rest closes opens inductionHypothesis =>
    have silent : tracker.reacts (region, depth) char = false := by
      rw [Bool.eq_false_iff]
      intro reaction
      simp only [tracker, Bool.and_eq_true, beq_iff_eq, Prod.mk.injEq] at reaction
      exact closes ⟨reaction.1.1, reaction.2⟩
    have moves : tracker.next (region, depth) char = (region.next char, depth) := by
      simp [tracker, closes, opens]
    rw [inductionHypothesis, Tracker.firstFrom?, silent, moves]
    rfl

/-- A parenthesis is closed behind a text with which the scan ends as it began. -/
theorem closing_append
    (front inner back : Text)
    (quiet : tracker.Quiet (.plain, 0) inner (.plain, 0)) :
    closing (front ++ '(' :: (inner ++ ')' :: back)) front.byteLength =
      .ok (front.byteLength + 1 + inner.byteLength) := by
  have found : closingFrom? .plain 0 (front.byteLength + 1) (inner ++ ')' :: back) =
      some (front.byteLength + 1 + inner.byteLength) := by
    rw [closingFrom?_eq_firstFrom?]
    exact Tracker.firstFrom?_append_cons quiet rfl _ _
  simp only [closing, Text.suffixAt?_byteLength_append, found]

/-- A parenthesis is closed only behind a text with which the scan ends as it began. -/
theorem exists_quiet_of_closing
    {text : Text}
    {opening found : Nat}
    (closes : closing text opening = .ok found) :
    ∃ front inner back : Text, text = front ++ '(' :: (inner ++ ')' :: back) ∧
      opening = front.byteLength ∧ found = front.byteLength + 1 + inner.byteLength ∧
      tracker.Quiet (.plain, 0) inner (.plain, 0) := by
  unfold closing at closes
  dsimp only at closes
  split at closes
  · rename_i position reached
    obtain rfl := Except.ok.inj closes
    split at reached
    · rename_i rest suffix
      obtain ⟨front, rfl, rfl⟩ := Text.exists_append_of_suffixAt? suffix
      rw [closingFrom?_eq_firstFrom?] at reached
      obtain ⟨inner, char, back, last, rfl, place, quiet, reacts⟩ :=
        Tracker.exists_quiet_of_firstFrom? reached
      obtain ⟨rfl, rfl⟩ : last = (.plain, 0) ∧ char = ')' := by simpa [tracker] using reacts
      exact ⟨front, inner, back, rfl, rfl, place, quiet⟩
    · cases reached
  · cases closes

/-- Parentheses move the scan for a closing parenthesis through no quotes. -/
theorem fst_next (state : Region × Nat) (char : Char) :
    (tracker.next state char).1 = state.1.next char := by
  obtain ⟨region, depth⟩ := state
  simp only [tracker]
  split
  · rename_i opens
    obtain ⟨rfl, rfl⟩ := opens
    rfl
  · split
    · rename_i closes
      obtain ⟨rfl, rfl⟩ := closes
      rfl
    · rfl

theorem fst_foldl_next (state : Region × Nat) (text : Text) :
    (text.foldl tracker.next state).1 = state.1.after text := by
  induction text generalizing state with
  | nil => rfl
  | cons char rest inductionHypothesis =>
    rw [List.foldl_cons, inductionHypothesis, fst_next, Region.after_cons]

theorem region_after_of_quiet
    {state last : Region × Nat}
    {text : Text}
    (quiet : tracker.Quiet state text last) :
    state.1.after text = last.1 := by
  rw [quiet.eq_foldl, fst_foldl_next]

/-- A parenthesis that is closed stands, with the one that closes it, around a text that ends
outside quotes. -/
theorem exists_append_of_closing
    {text : Text}
    {opening found : Nat}
    (closes : closing text opening = .ok found) :
    ∃ front inner back : Text, text = front ++ '(' :: (inner ++ ')' :: back) ∧
      opening = front.byteLength ∧ found = front.byteLength + 1 + inner.byteLength ∧
      Region.plain.after inner = .plain := by
  obtain ⟨front, inner, back, whole, place, reached, quiet⟩ := exists_quiet_of_closing closes
  exact ⟨front, inner, back, whole, place, reached, region_after_of_quiet quiet⟩

end Parenthesis

/-! ## The parenthesis behind a table -/

namespace Insert

/-- The scan behind INSERT INTO reacts to parentheses outside double quotes. -/
def tableTracker : Tracker Bool where
  next inIdentifier char := if char = '"' then !inIdentifier else inIdentifier
  reacts inIdentifier char := char == '(' && !inIdentifier

theorem openingFrom?_eq_firstFrom? (inIdentifier : Bool) (position : Nat) (text : Text) :
    openingFrom? inIdentifier position text =
      tableTracker.firstFrom? inIdentifier position text := by
  fun_induction openingFrom? inIdentifier position text with
  | case1 => rfl
  | case2 inIdentifier position char rest opens => simp [Tracker.firstFrom?, tableTracker, opens]
  | case3 inIdentifier position char rest other inductionHypothesis =>
    have silent : tableTracker.reacts inIdentifier char = false := by
      simpa [tableTracker] using other
    rw [inductionHypothesis, Tracker.firstFrom?, silent]
    rfl

end Insert
end SqlDump
