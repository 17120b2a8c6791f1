import SqlDump.Scanner.State

/-!
# Feeding a scanner

A scanner takes its input in chunks, cut anywhere.  The statements of a chunk are pulled from a
`Feed` one at a time.  A feed may be closed before it is exhausted: the rest of its chunk is
scanned all the same, and the statements it completes are deferred to the next feed.
-/

namespace SqlDump

/-- A scanner between two chunks. -/
structure Scanner where
  /-- The state after the last character. -/
  state : Scanner.State := {}
  /-- Statements completed by earlier chunks that nobody has pulled yet. -/
  deferred : List Statement := []
  deriving DecidableEq, Repr, Inhabited

namespace Scanner

/-- A chunk whose statements are being pulled. -/
structure Feed where
  /-- The state after the last character scanned. -/
  state : State
  /-- Statements completed earlier, to be pulled first. -/
  deferred : List Statement
  /-- The characters of the chunk not scanned yet. -/
  rest : Text
  deriving DecidableEq, Repr, Inhabited

namespace Feed

/-- Scans up to the end of the next statement, if the rest of the chunk completes one. -/
def advance (state : State) : Text → Option Statement × State × Text
  | [] => (none, state, [])
  | char :: rest =>
    match state.step char with
    | (next, some statement) => (some statement, next, rest)
    | (next, none) => advance next rest

/-- Pulls the next statement. -/
def next (feed : Feed) : Option Statement × Feed :=
  match feed.deferred with
  | statement :: deferred => (some statement, { feed with deferred })
  | [] =>
    let (statement?, state, rest) := advance feed.state feed.rest
    (statement?, { feed with state, rest })

/-- Pulls statements until `limit` of them are there or the feed is exhausted. -/
def pull (feed : Feed) : (limit : Nat) → List Statement × Feed
  | 0 => ([], feed)
  | limit + 1 =>
    match feed.next with
    | (some statement, feed) =>
      let (later, feed) := feed.pull limit
      (statement :: later, feed)
    | (none, feed) => ([], feed)

/-- Gives the feed up: the rest of the chunk is scanned and its statements are deferred. -/
def close (feed : Feed) : Scanner :=
  let (state, completed) := feed.state.run feed.rest
  { state, deferred := feed.deferred ++ completed }

/-- Everything a feed still has to hand out, and the scanner behind it. -/
def remainder (feed : Feed) : List Statement × Scanner :=
  let (state, completed) := feed.state.run feed.rest
  (feed.deferred ++ completed, { state, deferred := [] })

/-- Closing a feed defers what it still had to hand out. -/
theorem deferred_close (feed : Feed) : feed.close.deferred = feed.remainder.1 := rfl

theorem state_close (feed : Feed) : feed.close.state = feed.remainder.2.state := rfl

/-- Scanning to the end of the next statement takes it off the statements of the whole. -/
theorem run_advance (state : State) (text : Text) :
    state.run text =
      ((((advance state text).2.1.run (advance state text).2.2).1),
        (advance state text).1.toList ++
          ((advance state text).2.1.run (advance state text).2.2).2) := by
  induction text generalizing state with
  | nil => rfl
  | cons char rest inductionHypothesis =>
    rw [State.run_cons]
    unfold advance
    cases taken : state.step char with
    | mk next completed =>
      cases completed with
      | some statement => rfl
      | none =>
        rw [inductionHypothesis next]
        simp

/-- Pulling a statement takes it off what the feed has to hand out. -/
theorem remainder_next (feed : Feed) :
    feed.remainder =
      (feed.next.1.toList ++ feed.next.2.remainder.1, feed.next.2.remainder.2) := by
  cases queued : feed.deferred with
  | cons statement deferred => simp [remainder, next, queued]
  | nil =>
    have whole := run_advance feed.state feed.rest
    simp only [remainder, next, queued, List.nil_append]
    rw [whole]

end Feed

/-- Starts to pull the statements of a chunk. -/
def feed (scanner : Scanner) (chunk : Text) : Feed :=
  { state := scanner.state, deferred := scanner.deferred, rest := chunk }

/-- Pulls all statements of a chunk. -/
def drain (scanner : Scanner) (chunk : Text) : List Statement × Scanner :=
  let (state, completed) := scanner.state.run chunk
  (scanner.deferred ++ completed, { state, deferred := [] })

/-- Draining two chunks in turn is draining them as one. -/
theorem drain_append (scanner : Scanner) (front back : Text) :
    scanner.drain (front ++ back) =
      ((scanner.drain front).1 ++ ((scanner.drain front).2.drain back).1,
        ((scanner.drain front).2.drain back).2) := by
  simp [drain, State.run_append]

/-- Hands out the deferred statements. -/
def takeDeferred (scanner : Scanner) : List Statement × Scanner :=
  (scanner.deferred, { scanner with deferred := [] })

/-- Ends the input: hands out the deferred statements and the unterminated one. -/
def finish (scanner : Scanner) : List Statement × Scanner :=
  let (deferred, scanner) := scanner.takeDeferred
  let (state, unterminated?) := scanner.state.flush
  (deferred ++ unterminated?.toList, { scanner with state })

/-- Behind the end of an input a scanner is like a new one. -/
theorem finish_eq (scanner : Scanner) :
    scanner.finish = (scanner.deferred ++ scanner.state.unterminated?.toList, {}) := by
  simp only [finish, takeDeferred, State.flush_eq]

end Scanner

end SqlDump
