import SqlDump.Error
import SqlDump.Scanner.Feed
import SqlDump.Source.Delivery
import SqlDump.Text.Utf8

/-!
# Reading statements from a source

A reader scans a source chunk by chunk.  A character that a chunk cuts in two is carried over to
the next chunk.  The statements of a chunk are queued; a chunk with ill-formed bytes is not
scanned at all.  After the first error, and at the end of the source, there are no more statements.
-/

namespace SqlDump

/-- A source that is being read. -/
structure Reader where
  /-- The reads still to come. -/
  reads : List Read
  /-- The scanner of the text decoded so far. -/
  scanner : Scanner := {}
  /-- The start of a character at the end of the bytes read so far. -/
  carry : List UInt8 := []
  /-- Statements scanned and not handed out yet. -/
  queue : List Statement := []
  /-- Number of bytes read so far. -/
  bytesRead : Nat := 0
  /-- Whether the end or an error was met. -/
  finished : Bool := false
  deriving DecidableEq, Repr, Inhabited

namespace Reader

/-- A reader at the start of a source, which reads at most `chunkSize` bytes at a time. -/
def ofSource (chunkSize : Nat) (source : List Segment) : Reader :=
  { reads := Segment.readsOf chunkSize source }

/-- What came of reading one chunk. -/
inductive Outcome where
  /-- The chunk was scanned. -/
  | scanned
  /-- The source has ended. -/
  | ended
  /-- An error. -/
  | failed (error : Error)
  deriving DecidableEq, Repr, Inhabited

/-- Reads and scans one chunk. -/
def fill (reader : Reader) : Outcome × Reader :=
  match reader.reads with
  | [] =>
    if reader.carry = [] then
      let (statements, scanner) := reader.scanner.finish
      (.ended, { reader with queue := reader.queue ++ statements, scanner })
    else (.failed (.illFormedBytes (reader.bytesRead - reader.carry.length)), reader)
  | .failure reason :: reads => (.failed (.readFailure reason), { reader with reads })
  | .chunk first rest :: reads =>
    let bytesRead := reader.bytesRead + (first :: rest).length
    let available := reader.carry ++ first :: rest
    match Utf8.decode available with
    | .error valid =>
      (.failed (.illFormedBytes (bytesRead - available.length + valid)),
        { reader with reads, bytesRead, carry := available })
    | .ok (text, carry) =>
      let (statements, scanner) := reader.scanner.drain text
      (.scanned, { reader with
                   reads, bytesRead, carry, scanner, queue := reader.queue ++ statements })

/-- Scanning a chunk uses up one read. -/
theorem length_reads_fill (reader : Reader) (scanned : reader.fill.1 = .scanned) :
    reader.fill.2.reads.length < reader.reads.length := by
  unfold fill at scanned ⊢
  split at scanned
  · split at scanned <;> simp at scanned
  · simp at scanned
  · rename_i reads equation
    dsimp only at scanned ⊢
    split at scanned
    · simp at scanned
    · simp only [equation, List.length_cons]
      omega

/-- Number of times a chunk can still be asked for. -/
def remaining (reader : Reader) : Nat :=
  if reader.finished then 0 else reader.reads.length + 1

/-- The next statement or the error that ends the reading; nothing once the reading has ended. -/
def next (reader : Reader) : Option (Except Error Statement) × Reader :=
  match reader.queue with
  | statement :: queue => (some (.ok statement), { reader with queue })
  | [] =>
    if reader.finished then (none, reader)
    else
      match _ : reader.fill.1 with
      | .scanned => next reader.fill.2
      | .ended => next { reader.fill.2 with finished := true }
      | .failed error => (some (.error error), { reader.fill.2 with finished := true })
termination_by reader.remaining
decreasing_by
  · have fewer := length_reads_fill reader ‹reader.fill.1 = .scanned›
    have active : reader.finished = false := by simpa using ‹¬ reader.finished = true›
    simp only [remaining, active, Bool.false_eq_true, if_false]
    split <;> omega
  · have active : reader.finished = false := by simpa using ‹¬ reader.finished = true›
    simp [remaining, active]

/-- Handing something out uses up a queued statement or a chunk. -/
theorem next_decreases (reader : Reader) (item : Except Error Statement)
    (found : reader.next.1 = some item) :
    reader.next.2.remaining < reader.remaining ∨
      reader.next.2.remaining = reader.remaining ∧
        reader.next.2.queue.length < reader.queue.length := by
  fun_induction next reader with
  | case1 reader statement queue queueEquality =>
    right
    exact ⟨rfl, by simp [queueEquality]⟩
  | case2 reader queueEquality finished => simp at found
  | case3 reader queueEquality active outcome inductionHypothesis =>
    left
    have fewer := length_reads_fill reader outcome
    have smaller : reader.fill.2.remaining < reader.remaining := by
      have running : reader.finished = false := by simpa using active
      simp only [remaining, running, Bool.false_eq_true, if_false]
      split <;> omega
    rcases inductionHypothesis found with less | ⟨equal, _⟩
    · exact Nat.lt_trans less smaller
    · exact equal ▸ smaller
  | case4 reader queueEquality active outcome inductionHypothesis =>
    left
    have smaller : Reader.remaining { reader.fill.2 with finished := true } < reader.remaining := by
      have running : reader.finished = false := by simpa using active
      simp [remaining, running]
    rcases inductionHypothesis found with less | ⟨equal, _⟩
    · exact Nat.lt_trans less smaller
    · exact equal ▸ smaller
  | case5 reader queueEquality active error outcome =>
    left
    have running : reader.finished = false := by simpa using active
    simp [remaining, running]

/-- Everything a reader hands out before it ends. -/
def items (reader : Reader) : List (Except Error Statement) :=
  match _ : reader.next.1 with
  | none => []
  | some item => item :: items reader.next.2
termination_by (reader.remaining, reader.queue.length)
decreasing_by
  rcases next_decreases reader item ‹reader.next.1 = some item› with less | ⟨equal, shorter⟩
  · exact Prod.Lex.left _ _ less
  · rw [equal]
    exact Prod.Lex.right _ shorter

/-- Counts the INSERT statements among what a reader hands out, up to the first error. -/
def countInsertsOf : List (Except Error Statement) → Except Error Nat
  | [] => .ok 0
  | .error error :: _ => .error error
  | .ok statement :: rest =>
    match countInsertsOf rest with
    | .ok count => .ok (if statement.isInsert then count + 1 else count)
    | .error error => .error error

/-- The number of INSERT statements in a source. -/
def countInserts (chunkSize : Nat) (source : List Segment) : Except Error Nat :=
  countInsertsOf (ofSource chunkSize source).items

end Reader
end SqlDump
