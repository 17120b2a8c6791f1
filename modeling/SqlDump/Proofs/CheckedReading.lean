import SqlDump.Proofs.CheckedStatements
import SqlDump.Proofs.Reading

/-!
# Reading a source with every difference checked

The position of ill-formed bytes is the number of bytes read less those carried over.  A reader
carries over bytes that it has read, so that the difference exists whenever it is taken.
-/

namespace SqlDump

namespace Utf8

/-- What is left undecoded is no longer than what was there. -/
theorem length_of_decodeFrom
    {begun bytes unfinished : List UInt8}
    {valid : Nat}
    {text : Text}
    (decoded : decodeFrom begun valid bytes = .ok (text, unfinished)) :
    unfinished.length ≤ begun.length + bytes.length := by
  induction bytes generalizing begun valid text with
  | nil =>
    cases decoded
    exact Nat.le_refl _
  | cons byte rest inductionHypothesis =>
    rw [decodeFrom] at decoded
    split at decoded
    · split at decoded
      · rename_i later
        cases decoded
        have shorter := inductionHypothesis later
        simp only [List.length_nil, List.length_cons] at shorter ⊢
        omega
      · cases decoded
    · have shorter := inductionHypothesis decoded
      simp only [List.length_append, List.length_cons, List.length_nil] at shorter ⊢
      omega
    · cases decoded

end Utf8

namespace Reader

/-- A difference, unless it is negative. -/
def minus? (minuend subtrahend : Nat) : Option Nat :=
  if subtrahend ≤ minuend then some (minuend - subtrahend) else none

theorem eq_sub_of_minus?
    {minuend subtrahend difference : Nat}
    (taken : minus? minuend subtrahend = some difference) :
    difference = minuend - subtrahend := by
  unfold minus? at taken
  split at taken
  · exact (Option.some.inj taken).symm
  · cases taken

/-- Reads and scans one chunk, unless a position in front of the source would be reported. -/
def fill? (reader : Reader) : Option (Outcome × Reader) :=
  match reader.reads with
  | [] =>
    if reader.carry = [] then
      let (statements, scanner) := reader.scanner.finish
      some (.ended, { reader with queue := reader.queue ++ statements, scanner })
    else do
      let offset ← minus? reader.bytesRead reader.carry.length
      some (.failed (.illFormedBytes offset), reader)
  | .failure reason :: reads => some (.failed (.readFailure reason), { reader with reads })
  | .chunk first rest :: reads =>
    let bytesRead := reader.bytesRead + (first :: rest).length
    let available := reader.carry ++ first :: rest
    match Utf8.decode available with
    | .error valid => do
      let offset ← minus? bytesRead available.length
      some (.failed (.illFormedBytes (offset + valid)),
        { reader with reads, bytesRead, carry := available })
    | .ok (text, carry) =>
      let (statements, scanner) := reader.scanner.drain text
      some (.scanned, { reader with
                        reads, bytesRead, carry, scanner, queue := reader.queue ++ statements })

/-- What is carried over has been read. -/
def CarriesRead (reader : Reader) : Prop :=
  reader.carry.length ≤ reader.bytesRead

theorem CarriesRead.fill?_eq
    {reader : Reader}
    (carries : reader.CarriesRead) :
    reader.fill? = some reader.fill := by
  unfold CarriesRead at carries
  unfold fill? fill
  cases reader.reads with
  | nil =>
    dsimp only
    split
    · rfl
    · simp [minus?, carries]
  | cons read reads =>
    cases read with
    | failure reason => rfl
    | chunk first rest =>
      have extended : (reader.carry ++ first :: rest).length ≤
          reader.bytesRead + (first :: rest).length := by
        rw [List.length_append]
        omega
      dsimp only
      cases Utf8.decode (reader.carry ++ first :: rest) with
      | error valid => simp only [minus?, if_pos extended, Option.bind_eq_bind, Option.bind_some]
      | ok decoded => rfl

theorem CarriesRead.fill
    {reader : Reader}
    (carries : reader.CarriesRead) :
    reader.fill.2.CarriesRead := by
  unfold CarriesRead at carries ⊢
  unfold Reader.fill
  split
  · split <;> exact carries
  · exact carries
  · rename_i first rest reads _
    have extended : (reader.carry ++ first :: rest).length ≤
        reader.bytesRead + (first :: rest).length := by
      rw [List.length_append]
      omega
    dsimp only
    split
    · exact extended
    · rename_i text carry decoded
      have shorter := Utf8.length_of_decodeFrom decoded
      rw [List.length_nil, Nat.zero_add] at shorter
      exact Nat.le_trans shorter extended

/-- A chunk that is read is read as without checks. -/
theorem eq_fill_of_fill?
    {reader : Reader}
    {filled : Outcome × Reader}
    (reached : reader.fill? = some filled) :
    filled = reader.fill := by
  unfold fill? at reached
  unfold fill
  cases reads : reader.reads with
  | nil =>
    simp only [reads] at reached ⊢
    split at reached
    · rename_i complete
      rw [if_pos complete]
      exact (Option.some.inj reached).symm
    · rename_i incomplete
      obtain ⟨offset, taken, whole⟩ := Option.bind_eq_some_iff.mp reached
      rw [if_neg incomplete, ← eq_sub_of_minus? taken]
      exact (Option.some.inj whole).symm
  | cons read later =>
    cases read with
    | failure reason =>
      simp only [reads] at reached
      exact (Option.some.inj reached).symm
    | chunk first rest =>
      simp only [reads] at reached ⊢
      cases decoded : Utf8.decode (reader.carry ++ first :: rest) with
      | error valid =>
        simp only [decoded] at reached
        obtain ⟨offset, taken, whole⟩ := Option.bind_eq_some_iff.mp reached
        rw [← eq_sub_of_minus? taken]
        exact (Option.some.inj whole).symm
      | ok decoded =>
        simp only [decoded] at reached
        exact (Option.some.inj reached).symm

/-- The next statement or the error that ends the reading, unless a position in front of the source
would be reported. -/
def next? (reader : Reader) : Option (Option (Except Error Statement) × Reader) :=
  match reader.queue with
  | statement :: queue => some (some (.ok statement), { reader with queue })
  | [] =>
    if reader.finished then some (none, reader)
    else
      match _ : reader.fill? with
      | none => none
      | some (.scanned, filled) => next? filled
      | some (.ended, filled) => next? { filled with finished := true }
      | some (.failed error, filled) => some (some (.error error), { filled with finished := true })
termination_by reader.remaining
decreasing_by
  · rename_i reached
    have same := eq_fill_of_fill? reached
    have fewer := length_reads_fill reader (by rw [← same])
    have active : reader.finished = false := by simpa using ‹¬ reader.finished = true›
    rw [← same] at fewer
    dsimp only at fewer
    simp only [remaining, active, Bool.false_eq_true, if_false]
    split <;> omega
  · have active : reader.finished = false := by simpa using ‹¬ reader.finished = true›
    simp [remaining, active]

theorem next?_of_active
    {reader : Reader}
    (empty : reader.queue = [])
    (active : ¬ reader.finished = true)
    (reached : reader.fill? = some reader.fill) :
    reader.next? =
      match reader.fill.1 with
      | .scanned => next? reader.fill.2
      | .ended => next? { reader.fill.2 with finished := true }
      | .failed error => some (some (.error error), { reader.fill.2 with finished := true }) := by
  rw [next?]
  simp only [empty, if_neg active]
  split
  · rename_i nothing
    rw [reached] at nothing
    cases nothing
  all_goals
    rename_i filled found
    rw [Option.some.inj (reached.symm.trans found)]

/-- A reader that carries over what it has read answers as without checks. -/
theorem CarriesRead.next?_eq
    {reader : Reader}
    (carries : reader.CarriesRead) :
    reader.next? = some reader.next := by
  fun_induction Reader.next reader with
  | case1 reader statement queue queued =>
    unfold next?
    simp only [queued]
  | case2 reader empty finished =>
    unfold next?
    simp only [empty, finished, if_true]
  | case3 reader empty active outcome inductionHypothesis =>
    rw [next?_of_active empty active carries.fill?_eq, outcome]
    exact inductionHypothesis carries.fill
  | case4 reader empty active outcome inductionHypothesis =>
    rw [next?_of_active empty active carries.fill?_eq, outcome]
    exact inductionHypothesis carries.fill
  | case5 reader empty active error outcome =>
    rw [next?_of_active empty active carries.fill?_eq, outcome]

theorem CarriesRead.next
    {reader : Reader}
    (carries : reader.CarriesRead) :
    reader.next.2.CarriesRead := by
  fun_induction Reader.next reader with
  | case1 => exact carries
  | case2 => exact carries
  | case3 reader empty active outcome inductionHypothesis => exact inductionHypothesis carries.fill
  | case4 reader empty active outcome inductionHypothesis => exact inductionHypothesis carries.fill
  | case5 reader empty active error outcome => exact carries.fill

theorem carriesRead_ofSource (chunkSize : Nat) (source : List Segment) :
    (ofSource chunkSize source).CarriesRead :=
  Nat.le_refl 0

/-- Whatever a source delivers, its reader carries over bytes that it has read. -/
theorem carriesRead_afterCalls
    {reader : Reader}
    (carries : reader.CarriesRead)
    (calls : Nat) :
    (reader.afterCalls calls).CarriesRead := by
  induction calls generalizing reader with
  | zero => exact carries
  | succ calls inductionHypothesis => exact inductionHypothesis carries.next

end Reader

/-- No text, name, policy, place to start at, literal or source makes a computation break off: every
cut is made between characters and in order, a parenthesis that closes closes an open one, the
hour of a localized timestamp is changed within its day, and no more bytes are carried over than
were read. -/
theorem nothing_breaks_off :
    (∀ statement column,
      Checked.locateColumns statement column = .of (Insert.locateColumns statement column)) ∧
    (∀ statement start,
      Checked.locateValues statement start = .of (Insert.locateValues statement start)) ∧
    (∀ statement column,
      Checked.removeColumn statement column = .of (Insert.removeColumn statement column)) ∧
    (∀ policy statement,
      Checked.prepare policy statement = .of (Insert.prepare policy statement)) ∧
    (∀ policy statement,
      Checked.isExceededIn policy statement =
        pure (LargeTextPolicy.isExceededIn policy statement)) ∧
    (∀ token, Checked.classify token = .of (Literal.classify token)) ∧
    (∀ policy literal, Checked.bind policy literal = .of (Literal.bind policy literal)) ∧
    (∀ text opening,
      Checked.closing text opening = .of (Parenthesis.closing text opening)) ∧
    (∀ text, Checked.parseLocalized text = .of (Localized.parse text)) ∧
    (∀ chunkSize source calls,
      ((Reader.ofSource chunkSize source).afterCalls calls).next? =
        some ((Reader.ofSource chunkSize source).afterCalls calls).next) :=
  ⟨Checked.locateColumns_eq, Checked.locateValues_eq, Checked.removeColumn_eq,
    Checked.prepare_eq, Checked.isExceededIn_eq, Checked.classify_eq, Checked.bind_eq,
    Checked.closing_eq, Checked.parseLocalized_eq, fun _ _ calls =>
      (Reader.carriesRead_afterCalls (Reader.carriesRead_ofSource _ _) calls).next?_eq⟩

end SqlDump
