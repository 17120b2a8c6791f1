import SqlDump.Proofs.Scanning
import SqlDump.Text.Search

/-!
# Scanning what was gathered

The text a scanner gathers has no comments left, and a new scanner that reads it gathers every
character of it and comes to stand where the first one stands.  Trimming the text changes neither
the lexical region nor the open parentheses at its end.  Statements joined by semicolons are
therefore cut again where they were joined.
-/

namespace SqlDump

open Unicode (isWhiteSpace)

namespace Scanner
namespace State

/-! ## Texts kept whole -/

/-- Whether a scanner outside comments gathers every character of a text. -/
def KeepsAll (state : State) : Text → Prop
  | [] => True
  | char :: rest => state.keeps char = true ∧ (state.step char).1.KeepsAll rest

theorem keepsAll_append (state : State) (front back : Text) :
    state.KeepsAll (front ++ back) ↔
      state.KeepsAll front ∧ (state.run front).1.KeepsAll back := by
  induction front generalizing state with
  | nil => simp [KeepsAll]
  | cons char rest inductionHypothesis =>
    simp [KeepsAll, run_cons, inductionHypothesis, and_assoc]

/-- A kept character is gathered. -/
theorem step_of_keeps
    (state : State)
    (char : Char)
    (outside : state.mode.inComment = false)
    (kept : state.keeps char = true) :
    (state.step char).1.gathered = state.gathered ++ [char] ∧
      (state.step char).1.mode.inComment = false ∧ (state.step char).2 = none := by
  have effect := step_effect state char
  generalize state.step char = taken at effect ⊢
  obtain ⟨next, completed⟩ := taken
  cases effect with
  | gathers _ _ _ stays text => exact ⟨text, stays, rfl⟩
  | ends plain semicolon balanced => simp [keeps, plain, semicolon, balanced] at kept
  | opens mode inComment heldBack continues => simp [keeps, heldBack, continues] at kept
  | skips mode inside stays => simp [outside] at inside
  | endsLine inside newline => simp [inside, Mode.inComment, Mode.inLineComment] at outside
  | endsBlock inside slash =>
    simp [inside, Mode.inComment, Mode.inLineComment, Mode.inBlockComment] at outside

/-- A text kept whole is gathered and completes no statement. -/
theorem run_of_keepsAll
    (state : State)
    (text : Text)
    (outside : state.mode.inComment = false)
    (kept : state.KeepsAll text) :
    (state.run text).1.gathered = state.gathered ++ text ∧
      (state.run text).1.mode.inComment = false ∧ (state.run text).2 = [] := by
  induction text generalizing state with
  | nil => simp [outside]
  | cons char rest inductionHypothesis =>
    obtain ⟨gathered, stays, nothing⟩ := step_of_keeps state char outside kept.1
    obtain ⟨laterGathered, laterStays, laterNothing⟩ :=
      inductionHypothesis (state.step char).1 stays kept.2
    rw [run_cons]
    refine ⟨?_, laterStays, ?_⟩
    · rw [laterGathered, gathered, List.append_assoc]
      rfl
    · simp [nothing, laterNothing]

theorem stepPlain_region
    (left right : State)
    (sameDepth : left.depth = right.depth)
    (char : Char) :
    (left.stepPlain char).1.mode = (right.stepPlain char).1.mode ∧
      (left.stepPlain char).1.depth = (right.stepPlain char).1.depth := by
  unfold stepPlain
  rw [sameDepth]
  split_ifs <;> simp [takeStatement, enter, push, sameDepth]

/-- The lexical region and the open parentheses do not depend on the text gathered. -/
theorem step_region
    (mode : Mode)
    (depth : Nat)
    (left right : Text)
    (char : Char) :
    (step ⟨mode, depth, left⟩ char).1.mode = (step ⟨mode, depth, right⟩ char).1.mode ∧
      (step ⟨mode, depth, left⟩ char).1.depth = (step ⟨mode, depth, right⟩ char).1.depth := by
  by_cases fresh : mode.isPlain = true ∧ mode.continues char = false
  · rw [step_of_isPlain _ _ fresh.1 fresh.2, step_of_isPlain _ _ fresh.1 fresh.2]
    exact stepPlain_region (settled ⟨mode, depth, left⟩) (settled ⟨mode, depth, right⟩) rfl char
  cases mode <;> simp_all [step, Mode.isPlain, Mode.continues, enter, push] <;>
    split_ifs <;> simp_all

/-- Nor does it depend on it whether a text is kept whole. -/
theorem keepsAll_region
    (mode : Mode)
    (depth : Nat)
    (left right text : Text)
    (kept : KeepsAll ⟨mode, depth, left⟩ text) :
    KeepsAll ⟨mode, depth, right⟩ text ∧
      (run ⟨mode, depth, right⟩ text).1.mode = (run ⟨mode, depth, left⟩ text).1.mode ∧
      (run ⟨mode, depth, right⟩ text).1.depth = (run ⟨mode, depth, left⟩ text).1.depth := by
  induction text generalizing mode depth left right with
  | nil => exact ⟨trivial, rfl, rfl⟩
  | cons char rest inductionHypothesis =>
    obtain ⟨sameMode, sameDepth⟩ := step_region mode depth left right char
    have later := kept.2
    rw [KeepsAll, run_cons, run_cons]
    generalize step ⟨mode, depth, left⟩ char = leftStep at *
    generalize step ⟨mode, depth, right⟩ char = rightStep at *
    obtain ⟨⟨leftMode, leftDepth, leftText⟩, leftCompleted⟩ := leftStep
    obtain ⟨⟨rightMode, rightDepth, rightText⟩, rightCompleted⟩ := rightStep
    obtain rfl : leftMode = rightMode := sameMode
    obtain rfl : leftDepth = rightDepth := sameDepth
    obtain ⟨keptLater, modeLater, depthLater⟩ :=
      inductionHypothesis leftMode leftDepth leftText rightText later
    exact ⟨⟨kept.1, keptLater⟩, modeLater, depthLater⟩

/-! ## White space -/

/-- Whether a character is gathered in plain text and opens and closes nothing. -/
def isInert (char : Char) : Bool :=
  !(['-', '/', '*', '\'', '"', '(', ')', ';'].contains char)

theorem isInert_iff (char : Char) :
    isInert char = true ↔
      char ≠ '-' ∧ char ≠ '/' ∧ char ≠ '*' ∧ char ≠ '\'' ∧ char ≠ '"' ∧ char ≠ '(' ∧
        char ≠ ')' ∧ char ≠ ';' := by
  simp [isInert]

theorem isInert_of_isWhiteSpace (char : Char) (white : isWhiteSpace char = true) :
    isInert char = true := by
  rw [isInert_iff]
  refine ⟨?_, ?_, ?_, ?_, ?_, ?_, ?_, ?_⟩ <;> rintro rfl <;> simp [isWhiteSpace] at white

theorem step_of_isInert
    (state : State)
    (char : Char)
    (plain : state.mode.isPlain = true)
    (inert : isInert char = true) :
    state.step char = (⟨.normal, state.depth, char :: state.gathered.reverse⟩, none) ∧
      state.keeps char = true := by
  obtain ⟨mode, depth, reversed⟩ := state
  obtain ⟨dash, slash, star, quote, double, opening, closing, semicolon⟩ :=
    (isInert_iff char).mp inert
  cases mode <;>
    simp_all [Mode.isPlain, step, stepPlain, gathered, Mode.heldBack, pendingText, push, enter,
      keeps, Mode.continues]

/-- White space in plain text is gathered and changes nothing else. -/
theorem run_of_isBlank
    (depth : Nat)
    (reversed blank : Text)
    (white : Text.isBlank blank = true) :
    (run ⟨.normal, depth, reversed⟩ blank).1 = ⟨.normal, depth, blank.reverse ++ reversed⟩ := by
  induction blank generalizing reversed with
  | nil => rfl
  | cons char rest inductionHypothesis =>
    rw [Text.isBlank, List.all_cons, Bool.and_eq_true] at white
    obtain ⟨taken, -⟩ := step_of_isInert ⟨.normal, depth, reversed⟩ char rfl
      (isInert_of_isWhiteSpace char white.1)
    rw [run_cons, taken, gathered_normal, List.reverse_reverse, inductionHypothesis _ white.2]
    simp

/-- White space leads to plain text only from plain text. -/
theorem isPlain_of_step_isWhiteSpace
    (state : State)
    (char : Char)
    (white : isWhiteSpace char = true)
    (outside : state.mode.inComment = false)
    (plain : (state.step char).1.mode.isPlain = true) :
    state.mode.isPlain = true := by
  have inert := isInert_of_isWhiteSpace char white
  obtain ⟨dash, slash, star, quote, double, opening, closing, semicolon⟩ :=
    (isInert_iff char).mp inert
  obtain ⟨mode, depth, reversed⟩ := state
  cases mode <;>
    simp_all [Mode.isPlain, Mode.inComment, Mode.inLineComment, Mode.inBlockComment, step, push]

theorem isPlain_of_run_isBlank
    (state : State)
    (blank : Text)
    (white : Text.isBlank blank = true)
    (outside : state.mode.inComment = false)
    (kept : state.KeepsAll blank)
    (plain : (state.run blank).1.mode.isPlain = true) :
    state.mode.isPlain = true ∧ (state.run blank).1.depth = state.depth := by
  induction blank generalizing state with
  | nil => exact ⟨plain, rfl⟩
  | cons char rest inductionHypothesis =>
    rw [Text.isBlank, List.all_cons, Bool.and_eq_true] at white
    obtain ⟨-, stays, -⟩ := step_of_keeps state char outside kept.1
    obtain ⟨plainNext, depth⟩ :=
      inductionHypothesis (state.step char).1 white.2 stays kept.2 plain
    have plainHere := isPlain_of_step_isWhiteSpace state char white.1 outside plainNext
    obtain ⟨taken, -⟩ := step_of_isInert state char plainHere
      (isInert_of_isWhiteSpace char white.1)
    rw [run_cons]
    exact ⟨plainHere, by rw [depth, taken]⟩

/-- A text that a new scanner keeps whole is kept whole when trimmed, and if it ends in plain text
then the trimmed one does, with as many parentheses open. -/
theorem keepsAll_trim (text : Text) (kept : KeepsAll {} text) :
    KeepsAll {} text.trim ∧
      ((run {} text).1.mode.isPlain = true →
        (run {} text.trim).1.mode.isPlain = true ∧
          (run {} text.trim).1.depth = (run {} text).1.depth) := by
  obtain ⟨before, after, beforeBlank, afterBlank, whole⟩ := Text.exists_trim_between text
  generalize text.trim = trimmed at whole ⊢
  subst whole
  rw [List.append_assoc, keepsAll_append, keepsAll_append] at kept
  obtain ⟨keptBefore, keptTrimmed, keptAfter⟩ := kept
  rw [run_of_isBlank 0 [] before beforeBlank] at keptTrimmed keptAfter
  have outsideAfter := (run_of_keepsAll _ trimmed rfl keptTrimmed).2.1
  -- the white space in front has no part in the lexical region, so it can be left out
  obtain ⟨keptAlone, sameMode, sameDepth⟩ :=
    keepsAll_region .normal 0 _ [] trimmed keptTrimmed
  refine ⟨keptAlone, ?_⟩
  intro plain
  rw [List.append_assoc, run_append, run_append, run_of_isBlank 0 [] before beforeBlank] at plain ⊢
  obtain ⟨plainTrimmed, depthAfter⟩ :=
    isPlain_of_run_isBlank _ after afterBlank outsideAfter keptAfter plain
  exact ⟨sameMode ▸ plainTrimmed, sameDepth.trans depthAfter.symm⟩

/-! ## What was gathered reads back -/

/-- What a new scanner becomes when it reads the text gathered. -/
def rescanned (state : State) : State :=
  (run {} state.gathered).1

/-- The text gathered reads back: a new scanner keeps it whole and comes to the same state, or,
inside a comment, to the state in plain text before the comment. -/
structure Faithful (state : State) : Prop where
  keepsAll : KeepsAll {} state.gathered
  depth_eq : state.rescanned.depth = state.depth
  outside : state.mode.inComment = false → state.rescanned = state
  inside : state.mode.inComment = true → state.rescanned.mode.isPlain = true

namespace Faithful

theorem start : Faithful {} where
  keepsAll := trivial
  depth_eq := rfl
  outside _ := rfl
  inside inComment := by simp [Mode.inComment, Mode.inLineComment, Mode.inBlockComment] at inComment

theorem gathered_rescanned {state : State} (faithful : Faithful state) :
    state.rescanned.gathered = state.gathered ∧ state.rescanned.mode.inComment = false := by
  obtain ⟨gathered, outside, -⟩ := run_of_keepsAll {} state.gathered rfl faithful.keepsAll
  exact ⟨gathered, outside⟩

/-- A scanner outside comments is what a new one becomes by reading what it gathered. -/
theorem of_run
    {state : State}
    (keepsAll : KeepsAll {} state.gathered)
    (rescanned : state.rescanned = state) :
    Faithful state where
  keepsAll := keepsAll
  depth_eq := by rw [rescanned]
  outside _ := rescanned
  inside inComment := by
    have outside := (run_of_keepsAll {} state.gathered rfl keepsAll).2.1
    rw [show (run {} state.gathered).1 = state from rescanned, inComment] at outside
    exact absurd outside (by simp)

/-- One more character, if the scanner of the text gathered keeps it. -/
theorem of_step
    {state next : State}
    (faithful : Faithful state)
    (char : Char)
    (gathered : next.gathered = state.gathered ++ [char])
    (kept : state.rescanned.keeps char = true)
    (taken : (state.rescanned.step char).1 = next) :
    Faithful next := by
  apply of_run
  · rw [gathered, keepsAll_append]
    exact ⟨faithful.keepsAll, kept, trivial⟩
  · rw [State.rescanned, gathered, run_append]
    exact taken

end Faithful

/-- A scanner holds a character back only when it takes it in plain text. -/
theorem isPlain_of_heldBack
    (state : State)
    (char : Char)
    (held : (state.step char).1.mode.heldBack ≠ []) :
    state.mode.isPlain = true ∧ (state.step char).1.depth = state.depth := by
  by_cases fresh : state.mode.isPlain = true ∧ state.mode.continues char = false
  · refine ⟨fresh.1, ?_⟩
    rw [step_of_isPlain _ _ fresh.1 fresh.2] at held ⊢
    unfold stepPlain at held ⊢
    split_ifs at held ⊢ <;> simp_all [takeStatement, enter, push, Mode.heldBack]
  obtain ⟨mode, depth, reversed⟩ := state
  cases mode <;> simp_all [step, Mode.isPlain, Mode.continues, enter, push, Mode.heldBack] <;>
    split_ifs at held <;> simp at held

/-- After white space a scanner in plain text holds nothing back. -/
theorem run_concat_isWhiteSpace
    (text : Text)
    (char : Char)
    (white : isWhiteSpace char = true)
    (kept : KeepsAll {} (text ++ [char]))
    (plain : (run {} (text ++ [char])).1.mode.isPlain = true) :
    (run {} (text ++ [char])).1 =
      ⟨.normal, (run {} (text ++ [char])).1.depth, (text ++ [char]).reverse⟩ := by
  rw [keepsAll_append] at kept
  obtain ⟨gathered, outside, -⟩ := run_of_keepsAll {} text rfl kept.1
  rw [run_append] at plain ⊢
  have plainBefore := isPlain_of_step_isWhiteSpace _ char white outside plain
  obtain ⟨taken, -⟩ := step_of_isInert _ char plainBefore (isInert_of_isWhiteSpace char white)
  rw [gathered] at taken
  simp only [run_cons, run_nil, taken]
  simp [State.gathered, pendingText, Mode.heldBack]

namespace Faithful

/-- One more character in plain text behind a comment. -/
theorem of_isInert
    {state : State}
    (faithful : Faithful state)
    (inside : state.mode.inComment = true)
    (char : Char)
    (inert : isInert char = true) :
    Faithful ((state.push char).enter .normal) := by
  have nothing := Mode.heldBack_of_inComment inside
  obtain ⟨taken, kept⟩ := step_of_isInert state.rescanned char (faithful.inside inside) inert
  apply faithful.of_step char _ kept
  · rw [taken, faithful.depth_eq, faithful.gathered_rescanned.1]
    simp [gathered, nothing, pendingText, push, enter]
  · rw [gathered, gathered, nothing]
    simp [enter, push, pendingText, Mode.heldBack]

/-- What follows when a comment opens: the text before it reads back to plain text. -/
theorem of_opens
    {state : State}
    (faithful : Faithful state)
    (heldBack : state.mode.heldBack ≠ [])
    (mode : Mode)
    (inComment : mode.inComment = true) :
    Faithful (state.enter mode) := by
  obtain ⟨held, heldEquality⟩ : ∃ held, state.mode.heldBack = [held] := by
    cases current : state.mode <;> simp_all [Mode.heldBack]
  have outside : state.mode.inComment = false := by
    cases current : state.mode.inComment with
    | false => rfl
    | true => exact absurd (Mode.heldBack_of_inComment current) heldBack
  have whole : state.gathered = state.pendingText ++ [held] := by rw [gathered, heldEquality]
  have before : (state.enter mode).gathered = state.pendingText := by
    simp [gathered, enter, Mode.heldBack_of_inComment inComment, pendingText]
  have kept := faithful.keepsAll
  have same := faithful.outside outside
  rw [whole, keepsAll_append] at kept
  rw [State.rescanned, whole, run_append] at same
  have taken : ((run {} state.pendingText).1.step held).1 = state := same
  obtain ⟨plain, depth⟩ := isPlain_of_heldBack (run {} state.pendingText).1 held
    (by rw [taken]; exact heldBack)
  rw [taken] at depth
  refine ⟨?_, ?_, ?_, ?_⟩
  · rw [before]
    exact kept.1
  · rw [State.rescanned, before]
    exact depth.symm
  · intro stays
    exact absurd inComment (by simpa [enter] using stays)
  · intro _
    rw [State.rescanned, before]
    exact plain

/-- Inside a comment nothing is gathered. -/
theorem of_skips
    {state : State}
    (faithful : Faithful state)
    (inside : state.mode.inComment = true)
    (mode : Mode)
    (stays : mode.inComment = true) :
    Faithful (state.enter mode) := by
  have same : (state.enter mode).gathered = state.gathered := by
    have nothing : (state.enter mode).mode.heldBack = [] := Mode.heldBack_of_inComment stays
    rw [gathered, gathered, Mode.heldBack_of_inComment inside, nothing, pendingText_enter]
  refine ⟨?_, ?_, ?_, ?_⟩
  · rw [same]
    exact faithful.keepsAll
  · rw [State.rescanned, same]
    exact faithful.depth_eq
  · intro outside
    exact absurd stays (by simpa [enter] using outside)
  · intro _
    rw [State.rescanned, same]
    exact faithful.inside inside

/-- Behind a block comment the text gathered reads back, with the space if there is one. -/
theorem of_endsBlock
    {state : State}
    (faithful : Faithful state)
    (inside : state.mode = .blockCommentStar) :
    Faithful state.leaveBlockComment := by
  have inComment : state.mode.inComment = true := by rw [inside]; rfl
  have text : state.gathered = state.reversed.reverse := by
    simp [gathered, inside, Mode.heldBack, pendingText]
  have keepsAll := faithful.keepsAll
  have depth := faithful.depth_eq
  have plain := faithful.inside inComment
  unfold leaveBlockComment
  split
  · rename_i nothing
    rw [State.rescanned, text, nothing] at depth
    have start : state.enter .normal = {} := by
      simp [enter, nothing, ← depth]
    rw [start]
    exact Faithful.start
  · rename_i last earlier gathered
    split
    · rename_i white
      rw [text, gathered, List.reverse_cons] at keepsAll
      rw [State.rescanned, text, gathered, List.reverse_cons] at depth plain
      have back := run_concat_isWhiteSpace earlier.reverse last white keepsAll plain
      have same : (state.enter .normal).gathered = earlier.reverse ++ [last] := by
        simp [State.gathered, enter, Mode.heldBack, pendingText, gathered]
      apply of_run
      · rw [same]
        exact keepsAll
      · rw [State.rescanned, same, back, depth]
        simp [enter, gathered]
    · exact faithful.of_isInert inComment ' ' rfl

/-- Whatever character follows, the text gathered still reads back. -/
theorem step {state : State} (faithful : Faithful state) (char : Char) :
    Faithful (state.step char).1 := by
  have effect := step_effect state char
  generalize taken : state.step char = result at effect
  obtain ⟨next, completed⟩ := result
  cases effect with
  | gathers _ outside kept stays text =>
    have same := faithful.outside outside
    exact faithful.of_step char text (same.symm ▸ kept) (by rw [same, taken])
  | ends plain semicolon balanced => exact start
  | opens mode inComment heldBack continues => exact faithful.of_opens heldBack mode inComment
  | skips mode inside stays => exact faithful.of_skips inside mode stays
  | endsLine inside newline =>
    refine faithful.of_isInert (by rw [inside]; rfl) char ?_
    rcases newline with rfl | rfl <;> rfl
  | endsBlock inside slash => exact faithful.of_endsBlock inside

theorem run {state : State} (faithful : Faithful state) (text : Text) :
    Faithful (state.run text).1 := by
  induction text generalizing state with
  | nil => exact faithful
  | cons char rest inductionHypothesis => exact inductionHypothesis (faithful.step char)

end Faithful

/-! ## Statements read again -/

/-- The text of the statement that the text gathered stands for is kept whole. -/
theorem Faithful.keepsAll_text
    {state : State}
    (faithful : Faithful state)
    {statement : Statement}
    (found : Statement.ofText? state.gathered = some statement) :
    KeepsAll {} statement.text := by
  obtain ⟨trimmed, -⟩ := (Statement.ofText?_eq_some_iff _ _).mp found
  rw [← trimmed]
  exact (keepsAll_trim state.gathered faithful.keepsAll).1

/-- The statement that the text gathered stands for is what a new scanner makes of its text. -/
theorem statementsIn_text
    {state : State}
    (faithful : Faithful state)
    {statement : Statement}
    (found : Statement.ofText? state.gathered = some statement) :
    statementsIn {} statement.text = [statement] := by
  have kept := faithful.keepsAll_text found
  obtain ⟨gathered, -, nothing⟩ := run_of_keepsAll {} statement.text rfl kept
  rw [statementsIn, nothing, unterminated?_eq, gathered]
  change (Statement.ofText? statement.text).toList = [statement]
  rw [Statement.ofText?_text _ _ found]
  rfl

/-- The text of a completed statement completes it again, with a semicolon behind it. -/
theorem run_text_semicolon
    {state : State}
    (faithful : Faithful state)
    (plain : state.mode.isPlain = true)
    (balanced : state.depth = 0)
    {statement : Statement}
    (found : Statement.ofText? state.gathered = some statement) :
    run {} (statement.text ++ [';']) = ({}, [statement]) := by
  obtain ⟨trimmed, -⟩ := (Statement.ofText?_eq_some_iff _ _).mp found
  have outside : state.mode.inComment = false := Mode.inComment_of_isPlain plain
  have same : (run {} state.gathered).1 = state := faithful.outside outside
  obtain ⟨kept, ending⟩ := keepsAll_trim state.gathered faithful.keepsAll
  rw [trimmed, same] at ending
  rw [trimmed] at kept
  obtain ⟨plainAgain, depth⟩ := ending plain
  obtain ⟨gathered, -, nothing⟩ := run_of_keepsAll {} statement.text rfl kept
  have cut := step_semicolon _ plainAgain (depth.trans balanced)
  have text : (run {} statement.text).1.gathered = statement.text := gathered
  rw [text, Statement.ofText?_text _ _ found] at cut
  rw [run_append, nothing, run_cons, cut]
  rfl

/-- A statement completed by a scan stands for the text gathered in front of a semicolon. -/
theorem Faithful.exists_of_completed
    {state : State}
    (faithful : Faithful state)
    (text : Text)
    {statement : Statement}
    (completed : statement ∈ (state.run text).2) :
    ∃ last : State, Faithful last ∧ last.mode.isPlain = true ∧ last.depth = 0 ∧
      Statement.ofText? last.gathered = some statement := by
  induction text generalizing state with
  | nil => simp at completed
  | cons char rest inductionHypothesis =>
    rw [run_cons, List.mem_append] at completed
    rcases completed with now | later
    · have effect := step_effect state char
      generalize state.step char = taken at effect now
      obtain ⟨next, completed⟩ := taken
      cases effect with
      | ends plain semicolon balanced =>
        exact ⟨state, faithful, plain, balanced, Option.mem_toList.mp now⟩
      | gathers | opens | skips | endsLine | endsBlock => simp at now
    · exact inductionHypothesis (faithful.step char) later

/-- Every statement completed by a scan is completed again by its text and a semicolon, and is
all that is made of its text alone. -/
theorem completed_again
    {state : State}
    (faithful : Faithful state)
    (text : Text)
    (statement : Statement)
    (completed : statement ∈ (state.run text).2) :
    run {} (statement.text ++ [';']) = ({}, [statement]) ∧
      statementsIn {} statement.text = [statement] := by
  obtain ⟨last, faithfulLast, plain, balanced, found⟩ := faithful.exists_of_completed text completed
  exact ⟨run_text_semicolon faithfulLast plain balanced found, statementsIn_text faithfulLast found⟩

/-- Statements that can be read again one by one can be read again joined by semicolons. -/
theorem statementsIn_joined
    (completed : List Statement)
    (last : Option Statement)
    (again : ∀ statement ∈ completed,
      run {} (statement.text ++ [';']) = ({}, [statement]) ∧
        statementsIn {} statement.text = [statement])
    (lastAgain : ∀ statement ∈ last, statementsIn {} statement.text = [statement]) :
    statementsIn {} (List.intercalate [';'] ((completed ++ last.toList).map Statement.text)) =
      completed ++ last.toList := by
  induction completed with
  | nil =>
    cases last with
    | none => rfl
    | some statement =>
      rw [List.nil_append, Option.toList_some, List.map_singleton, List.intercalate_singleton]
      exact lastAgain statement rfl
  | cons statement rest inductionHypothesis =>
    obtain ⟨sealed, whole⟩ := again statement List.mem_cons_self
    have later := inductionHypothesis fun other member => again other (List.mem_cons_of_mem _ member)
    rw [List.cons_append, List.map_cons]
    by_cases single : rest ++ last.toList = []
    · rw [single, List.map_nil, List.intercalate_singleton]
      exact whole
    · rw [List.intercalate_cons_of_ne_nil (by simpa using single), statementsIn_append, sealed,
        later]
      rfl

end State
end Scanner

/-- Joining the statements of a script by semicolons and cutting the result yields the same
statements, also when the script ends inside a string, a quoted identifier or parentheses, or
behind a dash or a slash. -/
theorem Script.statements_joined (script : Text) :
    Script.statements (List.intercalate [';'] ((Script.statements script).map Statement.text)) =
      Script.statements script := by
  have faithful := Scanner.State.Faithful.start.run script
  rw [Script.statements_eq_statementsIn, Script.statements_eq]
  apply Scanner.State.statementsIn_joined
  · intro statement completed
    exact Scanner.State.completed_again Scanner.State.Faithful.start script statement completed
  · intro statement found
    exact Scanner.State.statementsIn_text faithful found

/-! ## Taking up a scan again -/

namespace Scanner

/-- A new scanner that reads what another one has gathered becomes that scanner, if and only if that
one stands outside comments. -/
theorem drain_gathered_iff (text : Text) :
    drain {} (drain {} text).2.state.gathered = ([], (drain {} text).2) ↔
      (drain {} text).2.state.mode.inComment = false := by
  have faithful := State.Faithful.start.run text
  obtain ⟨-, outside, nothing⟩ := State.run_of_keepsAll {} _ rfl faithful.keepsAll
  have reached : drain {} (drain {} text).2.state.gathered =
      ([], ⟨(State.run {} text).1.rescanned, []⟩) :=
    Prod.ext nothing rfl
  rw [reached]
  constructor
  · intro same
    have state : (State.run {} text).1.rescanned = (State.run {} text).1 :=
      congrArg (fun result => result.2.state) same
    rwa [← State.rescanned, state] at outside
  · intro stays
    rw [faithful.outside stays]
    rfl

/-- Outside comments the text gathered, with the character held back, is all that a scanner has to
remember: a new scanner that reads it completes no statement and comes to stand in the same state.
Whatever the input goes on with, the statements from then on are those that a new scanner makes of
the text gathered and what follows it. -/
theorem resumes_from_gathered
    {text : Text}
    {scanner : Scanner}
    (drained : (drain {} text).2 = scanner)
    (outside : scanner.state.mode.inComment = false) :
    drain {} scanner.state.gathered = ([], scanner) ∧
      ∀ continuation,
        scanner.drain continuation = drain {} (scanner.state.gathered ++ continuation) ∧
        (scanner.drain continuation).1 ++ (scanner.drain continuation).2.finish.1 =
          Script.statements (scanner.state.gathered ++ continuation) := by
  subst drained
  have resumed := (drain_gathered_iff text).mpr outside
  refine ⟨resumed, fun continuation => ?_⟩
  have later : (drain {} text).2.drain continuation =
      drain {} ((drain {} text).2.state.gathered ++ continuation) := by
    rw [drain_append, resumed]
    rfl
  exact ⟨later, by rw [later]; rfl⟩

/-- Behind a comment, inside parentheses and with a dash held back. -/
theorem resumes_from_gathered_of_dash :
    let scanner : Scanner := { state := ⟨.dash, 1, "SELECT ('a' b ".toList.reverse⟩ }
    (drain {} "COMMIT;SELECT ('a'/*(*/b -".toList).2 = scanner ∧
      scanner.state.mode.inComment = false ∧
      drain {} "SELECT ('a' b -".toList = ([], scanner) ∧
      ∀ continuation, (scanner.drain continuation).1 ++ (scanner.drain continuation).2.finish.1 =
        Script.statements ("SELECT ('a' b -".toList ++ continuation) := by
  intro scanner
  have drained : (drain {} "COMMIT;SELECT ('a'/*(*/b -".toList).2 = scanner := by decide +kernel
  obtain ⟨resumed, later⟩ := resumes_from_gathered drained rfl
  have gathered : scanner.state.gathered = "SELECT ('a' b -".toList := by decide +kernel
  rw [gathered] at resumed later
  exact ⟨drained, rfl, resumed, fun continuation => (later continuation).2⟩

end Scanner
end SqlDump
