import SqlDump.Script

/-!
# Reading a script in chunks

A script reaches its scanner in chunks that may be cut anywhere.  Of the statements of a chunk
any number may be pulled before its feed is closed, and before each chunk the scanner may be set
up anew from what was captured of it.  Whatever is done, the statements handed out are those of
the whole script, each once and in order.
-/

namespace SqlDump
namespace Scanner

/-- Everything a scanner remembers, as it can be put aside and taken up again. -/
structure Capture where
  /-- The lexical region. -/
  mode : Mode
  /-- The number of open parentheses. -/
  depth : Nat
  /-- The text gathered for the current statement. -/
  pendingText : Text
  /-- The statements nobody has pulled yet. -/
  deferred : List Statement
  deriving DecidableEq, Repr

/-- A copy of everything a scanner remembers. -/
def capture (scanner : Scanner) : Capture where
  mode := scanner.state.mode
  depth := scanner.state.depth
  pendingText := scanner.state.pendingText
  deferred := scanner.deferred

/-- A scanner that takes up what another one remembered. -/
def ofCapture (captured : Capture) : Scanner where
  state := {
    mode := captured.mode
    depth := captured.depth
    reversed := captured.pendingText.reverse }
  deferred := captured.deferred

/-- A capture forgets nothing. -/
@[simp] theorem ofCapture_capture (scanner : Scanner) :
    ofCapture scanner.capture = scanner := by
  simp [ofCapture, capture, State.pendingText]

/-- One chunk of a script and what is done with it. -/
structure Portion where
  /-- The characters of the chunk. -/
  chunk : Text
  /-- Number of statements pulled before the feed is closed, unless it is exhausted earlier. -/
  pulls : Nat
  /-- Whether the scanner is replaced, before the chunk, by one set up from its capture. -/
  replaced : Bool
  deriving DecidableEq, Repr

/-- Feeds one chunk: the statements pulled and the scanner behind the closed feed. -/
def take (scanner : Scanner) (portion : Portion) : List Statement × Scanner :=
  let current := if portion.replaced then ofCapture scanner.capture else scanner
  let (pulled, feed) := (current.feed portion.chunk).pull portion.pulls
  (pulled, feed.close)

/-- Feeds several chunks in turn. -/
def takeAll (scanner : Scanner) : List Portion → List Statement × Scanner
  | [] => ([], scanner)
  | portion :: rest =>
    let (pulled, next) := scanner.take portion
    let (later, last) := next.takeAll rest
    (pulled ++ later, last)

/-- The characters of several chunks, one chunk after another. -/
def scriptOf (portions : List Portion) : Text :=
  portions.flatMap Portion.chunk

theorem scriptOf_cons (portion : Portion) (rest : List Portion) :
    scriptOf (portion :: rest) = portion.chunk ++ scriptOf rest := rfl

/-! ## Pulling loses nothing -/

namespace Feed

/-- Pulled statements come off the front of what a feed has to hand out. -/
theorem remainder_pull (feed : Feed) (limit : Nat) :
    feed.remainder =
      ((feed.pull limit).1 ++ (feed.pull limit).2.remainder.1,
        (feed.pull limit).2.remainder.2) := by
  induction limit generalizing feed with
  | zero => rfl
  | succ limit inductionHypothesis =>
    have first := remainder_next feed
    unfold pull
    cases pulled : feed.next with
    | mk statement? after =>
      rw [pulled] at first
      cases statement? with
      | none => simpa using first
      | some statement =>
        rw [first, inductionHypothesis after]
        simp

/-- A scan that meets no end of a statement goes through the whole text. -/
theorem advance_eq_of_none (state : State) (text : Text)
    (unfinished : (advance state text).1 = none) :
    advance state text = (none, (state.run text).1, []) := by
  induction text generalizing state with
  | nil => rfl
  | cons char rest inductionHypothesis =>
    unfold advance at unfinished ⊢
    rw [State.run_cons]
    cases taken : state.step char with
    | mk next completed =>
      cases completed with
      | some statement => simp [taken] at unfinished
      | none =>
        simp only [taken] at unfinished ⊢
        exact inductionHypothesis next unfinished

/-- A feed that answers with nothing has scanned its whole chunk. -/
theorem next_eq_of_none (feed : Feed) (exhausted : feed.next.1 = none) :
    feed.next = (none, ⟨feed.remainder.2.state, [], []⟩) := by
  unfold next at exhausted ⊢
  cases queued : feed.deferred with
  | cons statement deferred => simp [queued] at exhausted
  | nil =>
    have unfinished : (advance feed.state feed.rest).1 = none := by simpa [queued] using exhausted
    simp [advance_eq_of_none feed.state feed.rest unfinished, remainder, queued]

/-- Pulling until the feed answers with nothing hands out everything and exhausts the feed. -/
theorem pull_eq_remainder (feed : Feed) (limit : Nat)
    (enough : feed.remainder.1.length < limit) :
    feed.pull limit = (feed.remainder.1, ⟨feed.remainder.2.state, [], []⟩) := by
  induction limit generalizing feed with
  | zero => exact absurd enough (Nat.not_lt_zero _)
  | succ limit inductionHypothesis =>
    have first := remainder_next feed
    unfold pull
    cases pulled : feed.next with
    | mk statement? after =>
      rw [pulled] at first
      cases statement? with
      | none =>
        have ended := next_eq_of_none feed (by rw [pulled])
        rw [pulled] at ended
        obtain ⟨-, rfl⟩ := Prod.mk.inj ended
        have nothing : feed.remainder.1 = [] := by
          rw [first]
          simp [remainder]
        simp [nothing]
      | some statement =>
        have fewer : after.remainder.1.length < limit := by
          rw [first] at enough
          simpa using enough
        simp [first, inductionHypothesis after fewer]

end Feed

/-- Draining a chunk is pulling its statements until there are no more. -/
theorem drain_eq_pull (scanner : Scanner) (chunk : Text) (limit : Nat)
    (enough : (scanner.drain chunk).1.length < limit) :
    scanner.drain chunk =
      (((scanner.feed chunk).pull limit).1, ((scanner.feed chunk).pull limit).2.close) := by
  have pulled := (scanner.feed chunk).pull_eq_remainder limit enough
  rw [pulled]
  simp [drain, feed, Feed.remainder, Feed.close]

/-! ## What a scanner has read -/

/-- A scanner has read a script, and some of the statements completed were handed out: those
not handed out are deferred. -/
structure HasRead (scanner : Scanner) (script : Text) (handedOut : List Statement) : Prop where
  /-- The state is that of a scan of the whole script. -/
  state_eq : scanner.state = (State.run {} script).1
  /-- The statements of the script are handed out or deferred, in order. -/
  statements_eq : handedOut ++ scanner.deferred = (State.run {} script).2

namespace HasRead

theorem start : HasRead {} [] [] := ⟨rfl, rfl⟩

/-- Feeding one more chunk extends the script by it. -/
theorem take
    {scanner : Scanner}
    {script : Text}
    {handedOut : List Statement}
    (hasRead : HasRead scanner script handedOut)
    (portion : Portion) :
    HasRead (scanner.take portion).2 (script ++ portion.chunk)
      (handedOut ++ (scanner.take portion).1) := by
  have current : (if portion.replaced then ofCapture scanner.capture else scanner) = scanner := by
    simp
  have whole := (scanner.feed portion.chunk).remainder_pull portion.pulls
  have remaining : (scanner.feed portion.chunk).remainder =
      (scanner.deferred ++ (scanner.state.run portion.chunk).2,
        { state := (scanner.state.run portion.chunk).1 }) := rfl
  rw [remaining] at whole
  obtain ⟨statementsEquality, scannerEquality⟩ := Prod.mk.inj whole
  have lastState := congrArg Scanner.state scannerEquality
  simp only [Scanner.take, current]
  constructor
  · rw [Feed.state_close, ← lastState, State.run_append, ← hasRead.state_eq]
  · rw [Feed.deferred_close, List.append_assoc, ← statementsEquality, ← List.append_assoc,
      hasRead.statements_eq, State.run_append, ← hasRead.state_eq]

/-- Feeding more chunks extends the script by them. -/
theorem takeAll
    {scanner : Scanner}
    {script : Text}
    {handedOut : List Statement}
    (hasRead : HasRead scanner script handedOut)
    (portions : List Portion) :
    HasRead (scanner.takeAll portions).2 (script ++ scriptOf portions)
      (handedOut ++ (scanner.takeAll portions).1) := by
  induction portions generalizing scanner script handedOut with
  | nil => simpa [Scanner.takeAll, scriptOf] using hasRead
  | cons portion rest inductionHypothesis =>
    have later := inductionHypothesis (hasRead.take portion)
    rw [scriptOf_cons]
    simpa only [Scanner.takeAll, List.append_assoc] using later

/-- What was handed out and what is handed out at the end are the statements of the script. -/
theorem statements_finish
    {scanner : Scanner}
    {script : Text}
    {handedOut : List Statement}
    (hasRead : HasRead scanner script handedOut) :
    handedOut ++ scanner.finish.1 = Script.statements script := by
  rw [Script.statements_eq, ← hasRead.statements_eq, ← hasRead.state_eq]
  simp [finish_eq]

end HasRead

/-- However a script is cut into chunks, however many statements of each chunk are pulled and
whether or not the scanner is replaced in between: the statements pulled and those handed out at
the end are the statements of the script; before the end the scanner stands where one drained
feed of the script leaves it; and after the end it is a new scanner, which reads the chunks of a
further script alike. -/
theorem takeAll_finish (portions : List Portion) :
    let pulled := (takeAll {} portions).1
    let scanner := (takeAll {} portions).2
    let drained := (drain {} (scriptOf portions)).2
    pulled ++ scanner.finish.1 = Script.statements (scriptOf portions) ∧
      scanner.state.mode = drained.state.mode ∧
      scanner.state.depth = drained.state.depth ∧
      scanner.state.pendingText = drained.state.pendingText ∧
      scanner.finish.2 = {} ∧
      ∀ further : List Portion,
        (scanner.finish.2.takeAll further).1 ++ (scanner.finish.2.takeAll further).2.finish.1 =
          Script.statements (scriptOf further) := by
  have hasRead := HasRead.start.takeAll portions
  have stateEquality : (takeAll {} portions).2.state = (drain {} (scriptOf portions)).2.state :=
    hasRead.state_eq
  have renewed : (takeAll {} portions).2.finish.2 = {} := by rw [finish_eq]
  refine ⟨?_, ?_, ?_, ?_, renewed, ?_⟩
  · exact hasRead.statements_finish
  · rw [stateEquality]
  · rw [stateEquality]
  · rw [stateEquality]
  · intro further
    rw [renewed]
    exact (HasRead.start.takeAll further).statements_finish

end Scanner
end SqlDump
