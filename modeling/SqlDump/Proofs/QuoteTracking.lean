import SqlDump.Proofs.Resegmentation
import SqlDump.Proofs.Tracking

/-!
# Quotes and parentheses, scanned once more

Outside comments a scanner moves from region to region, and counts parentheses, like the scan for
a closing parenthesis does.  A statement has no comments left, so both agree all along its text.
-/

namespace SqlDump

namespace Scanner

namespace Mode

/-- The kind of quoting the next character stands in, unless it doubles a quote. -/
def region : Mode → Region
  | .string => .string
  | .identifier => .identifier
  | _ => .plain

end Mode

namespace State

variable {state : State} {char : Char} {text : Text}

/-- The region a scanner stands in, and the number of open parentheses. -/
def nesting (state : State) : Region × Nat :=
  (state.mode.region, state.depth)

theorem nesting_stepPlain (state : State) (char : Char) (normal : state.mode = .normal) :
    (state.stepPlain char).1.nesting = Parenthesis.tracker.next (.plain, state.depth) char := by
  obtain ⟨mode, depth, reversed⟩ := state
  subst normal
  unfold stepPlain
  split_ifs <;>
    simp_all [nesting, takeStatement, enter, push, Mode.region, Parenthesis.tracker, Region.next]

/-- Outside comments a character moves a scanner like the scan for a closing parenthesis. -/
theorem nesting_step (outside : state.mode.inComment = false) (char : Char) :
    (state.step char).1.nesting = Parenthesis.tracker.next state.nesting char := by
  by_cases fresh : state.mode.isPlain = true ∧ state.mode.continues char = false
  · obtain ⟨plain, fresh⟩ := fresh
    have region : state.mode.region = .plain := by
      cases mode : state.mode <;> simp_all [Mode.isPlain, Mode.region]
    rw [step_of_isPlain state char plain fresh, nesting_stepPlain _ _ rfl, nesting, region]
    rfl
  · obtain ⟨mode, depth, reversed⟩ := state
    -- the character continues a delimiter, or the scanner stands inside quotes
    cases mode with
    | normal => simp [Mode.isPlain, Mode.continues] at fresh
    | dash =>
      obtain rfl : char = '-' := by simpa [Mode.isPlain, Mode.continues] using fresh
      rfl
    | slash =>
      obtain rfl : char = '*' := by simpa [Mode.isPlain, Mode.continues] using fresh
      rfl
    | stringQuote =>
      obtain rfl : char = '\'' := by simpa [Mode.isPlain, Mode.continues] using fresh
      rfl
    | identifierQuote =>
      obtain rfl : char = '"' := by simpa [Mode.isPlain, Mode.continues] using fresh
      rfl
    | string =>
      by_cases quote : char = '\''
      · rw [quote]
        rfl
      · simp [step, nesting, Mode.region, push, Parenthesis.tracker, Region.next, quote]
    | identifier =>
      by_cases quote : char = '"'
      · rw [quote]
        rfl
      · simp [step, nesting, Mode.region, push, Parenthesis.tracker, Region.next, quote]
    | lineComment | blockComment | blockCommentStar => cases outside

theorem region_step (outside : state.mode.inComment = false) (char : Char) :
    (state.step char).1.mode.region = state.mode.region.next char := by
  have moves := congrArg Prod.fst (nesting_step outside char)
  refine moves.trans ?_
  rw [Parenthesis.fst_next]
  rfl

/-- A text kept whole is read outside comments, and moves a scanner through the regions of the
text. -/
theorem region_run (outside : state.mode.inComment = false) (kept : state.KeepsAll text) :
    (state.run text).1.mode.region = state.mode.region.after text := by
  induction text generalizing state with
  | nil => rfl
  | cons char rest inductionHypothesis =>
    have stays := (step_of_keeps state char outside kept.1).2.1
    rw [run_cons, inductionHypothesis stays kept.2, region_step outside, Region.after_cons]

/-! ## Parentheses -/

/-- Byte position, in a text, of the first character behind which a scanner has a given number of
parentheses open. -/
def FirstReaches (state : State) (depth : Nat) (text : Text) (place : Nat) : Prop :=
  ∃ (inner : Text) (char : Char) (back : Text), text = inner ++ char :: back ∧
    place = inner.byteLength ∧
    (state.run (inner ++ [char])).1.depth = depth ∧
    ∀ part, part <+: inner → (state.run part).1.depth ≠ depth

theorem firstReaches_nil (depth place : Nat) : ¬ state.FirstReaches depth [] place := by
  rintro ⟨inner, char, back, whole, -⟩
  simp at whole

theorem firstReaches_cons_of_eq
    {depth place : Nat}
    {rest : Text}
    (other : state.depth ≠ depth)
    (reached : (state.step char).1.depth = depth) :
    state.FirstReaches depth (char :: rest) place ↔ place = 0 := by
  constructor
  · rintro ⟨inner, last, back, whole, rfl, -, before⟩
    cases inner with
    | nil => rfl
    | cons first later =>
      obtain ⟨rfl, -⟩ := List.cons.inj whole
      exact absurd reached (before [char] (List.prefix_append [char] later))
  · rintro rfl
    refine ⟨[], char, rest, rfl, rfl, reached, fun part start => ?_⟩
    rw [List.prefix_nil.mp start]
    exact other

theorem firstReaches_cons_of_ne
    {depth place : Nat}
    {rest : Text}
    (other : state.depth ≠ depth)
    (missed : (state.step char).1.depth ≠ depth) :
    state.FirstReaches depth (char :: rest) place ↔
      ∃ later, (state.step char).1.FirstReaches depth rest later ∧
        place = char.utf8Size + later := by
  constructor
  · rintro ⟨inner, last, back, whole, rfl, reached, before⟩
    cases inner with
    | nil =>
      obtain ⟨rfl, -⟩ := List.cons.inj whole
      exact absurd reached missed
    | cons first later =>
      obtain ⟨rfl, rest⟩ := List.cons.inj whole
      refine ⟨Text.byteLength later, ⟨later, last, back, rest, rfl, reached, ?_⟩, rfl⟩
      intro part start
      exact before (char :: part) (List.cons_prefix_cons.mpr ⟨rfl, start⟩)
  · rintro ⟨_, ⟨inner, last, back, rfl, rfl, reached, before⟩, rfl⟩
    refine ⟨char :: inner, last, back, rfl, rfl, reached, fun part start => ?_⟩
    cases part with
    | nil => exact other
    | cons first later =>
      obtain ⟨rfl, startLater⟩ := List.cons_prefix_cons.mp start
      exact before later startLater

/-- Positions of a first place may be counted from behind a character. -/
theorem exists_firstReaches_cons_iff
    {depth : Nat}
    {rest : Text}
    (other : state.depth ≠ depth)
    (missed : (state.step char).1.depth ≠ depth)
    (position found : Nat) :
    (∃ place, state.FirstReaches depth (char :: rest) place ∧ found = position + place) ↔
      ∃ place, (state.step char).1.FirstReaches depth rest place ∧
        found = position + char.utf8Size + place := by
  simp only [firstReaches_cons_of_ne other missed]
  constructor
  · rintro ⟨_, ⟨place, reaches, rfl⟩, rfl⟩
    exact ⟨place, reaches, (Nat.add_assoc _ _ _).symm⟩
  · rintro ⟨place, reaches, rfl⟩
    exact ⟨char.utf8Size + place, ⟨place, reaches, rfl⟩, Nat.add_assoc _ _ _⟩

/-- The scan for a closing parenthesis stops where a scanner has closed one parenthesis more than
were open when the scan started. -/
theorem closingFrom?_eq_some_iff
    (outside : state.mode.inComment = false)
    (kept : state.KeepsAll text)
    {base depth : Nat}
    (deep : state.depth = base + 1 + depth)
    (position found : Nat) :
    Parenthesis.closingFrom? state.mode.region depth position text = some found ↔
      ∃ place, state.FirstReaches base text place ∧ found = position + place := by
  induction text generalizing state depth position with
  | nil =>
    refine iff_of_false (by simp [Parenthesis.closingFrom?]) ?_
    rintro ⟨place, reaches, -⟩
    exact firstReaches_nil base place reaches
  | cons char rest inductionHypothesis =>
    have stays := (step_of_keeps state char outside kept.1).2.1
    have moves := nesting_step outside char
    have region := region_step outside char
    have other : state.depth ≠ base := by omega
    have later (depthAfter : Nat)
        (deepAfter : (state.step char).1.depth = base + 1 + depthAfter) :
        Parenthesis.closingFrom? (state.step char).1.mode.region depthAfter
            (position + char.utf8Size) rest = some found ↔
          ∃ place, state.FirstReaches base (char :: rest) place ∧ found = position + place := by
      have missed : (state.step char).1.depth ≠ base := by omega
      rw [inductionHypothesis stays kept.2 deepAfter, exists_firstReaches_cons_iff other missed]
    have depthAfter : (state.step char).1.depth =
        (Parenthesis.tracker.next (state.mode.region, state.depth) char).2 :=
      congrArg Prod.snd moves
    by_cases closes : state.mode.region = .plain ∧ char = ')'
    · obtain ⟨plain, rfl⟩ := closes
      rw [plain] at region depthAfter ⊢
      have shrinks : (state.step ')').1.depth = state.depth - 1 := depthAfter
      cases depth with
      | zero =>
        have reached : (state.step ')').1.depth = base := by omega
        simp only [firstReaches_cons_of_eq other reached]
        change some position = some found ↔ _
        constructor
        · rintro same
          exact ⟨0, rfl, (Option.some.inj same).symm⟩
        · rintro ⟨_, rfl, rfl⟩
          rfl
      | succ depth =>
        have reached := later depth (by omega)
        rw [region] at reached
        exact reached
    · by_cases opens : state.mode.region = .plain ∧ char = '('
      · obtain ⟨plain, rfl⟩ := opens
        rw [plain] at region depthAfter ⊢
        have grows : (state.step '(').1.depth = state.depth + 1 := depthAfter
        have reached := later (depth + 1) (by omega)
        rw [region] at reached
        exact reached
      · have same : (state.step char).1.depth = state.depth := by
          rw [depthAfter]
          simp only [Parenthesis.tracker, if_neg opens, if_neg closes]
        rw [Parenthesis.closingFrom?.eq_def]
        simp only [if_neg closes, if_neg opens, ← region]
        exact later depth (by omega)

end State
end Scanner
end SqlDump
