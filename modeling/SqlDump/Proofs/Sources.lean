import SqlDump.Proofs.Reading

/-!
# Intact and faulty sources

A source without failing reads whose bytes encode a script yields the statements of the script,
however the bytes are delivered.  Any other source yields statements completed in its well-formed
start, then one error, then nothing more.
-/

namespace SqlDump
namespace Reader

/-! ## Counting the bytes read -/

/-- The bytes read so far and those still to be read. -/
def total (reader : Reader) : Nat :=
  reader.bytesRead + (Read.content reader.reads).length

theorem total_fill (reader : Reader) : reader.fill.2.total = reader.total := by
  unfold fill
  split
  · split <;> rfl
  · rename_i unread
    simp [total, Read.content, unread]
  · rename_i unread
    dsimp only
    split <;> simp [total, Read.content, unread] <;> omega

theorem total_next (reader : Reader) : reader.next.2.total = reader.total := by
  fun_induction next reader with
  | case1 => rfl
  | case2 => rfl
  | case3 reader empty active outcome inductionHypothesis =>
    rw [inductionHypothesis, total_fill]
  | case4 reader empty active outcome inductionHypothesis =>
    rw [inductionHypothesis]
    exact total_fill reader
  | case5 reader empty active error outcome => exact total_fill reader

theorem total_afterCalls (reader : Reader) (calls : Nat) :
    (reader.afterCalls calls).total = reader.total := by
  induction calls generalizing reader with
  | zero => rfl
  | succ calls inductionHypothesis =>
    exact (inductionHypothesis reader.next.2).trans reader.total_next

theorem reads_of_ended (reader : Reader) (ended : reader.fill.1 = .ended) :
    reader.fill.2.reads = [] := by
  unfold fill at ended ⊢
  split at ended
  · rename_i nothing
    split at ended <;> simp_all
  · simp at ended
  · dsimp only at ended
    split at ended <;> simp at ended

theorem finished_fill (reader : Reader) : reader.fill.2.finished = reader.finished := by
  unfold fill
  split
  · split <;> rfl
  · rfl
  · dsimp only
    split <;> rfl

/-- A reader that ends without an error has read everything. -/
theorem reads_of_next
    (reader : Reader)
    (complete : reader.finished = true → reader.reads = [])
    (noError : ∀ error, reader.next.1 ≠ some (.error error)) :
    reader.next.2.finished = true → reader.next.2.reads = [] := by
  fun_induction next reader with
  | case1 => exact complete
  | case2 => exact complete
  | case3 reader empty active outcome inductionHypothesis =>
    refine inductionHypothesis (fun finished => ?_) noError
    rw [finished_fill] at finished
    exact absurd finished active
  | case4 reader empty active outcome inductionHypothesis =>
    exact inductionHypothesis (fun _ => reads_of_ended reader outcome) noError
  | case5 reader empty active error outcome => exact absurd rfl (noError error)

theorem reads_afterCalls
    (reader : Reader)
    (complete : reader.finished = true → reader.reads = [])
    (noError : ∀ call error, reader.answer call ≠ some (.error error))
    (calls : Nat) :
    (reader.afterCalls calls).finished = true → (reader.afterCalls calls).reads = [] := by
  induction calls generalizing reader with
  | zero => exact complete
  | succ calls inductionHypothesis =>
    exact inductionHypothesis reader.next.2 (reader.reads_of_next complete (noError 0))
      fun call => noError (call + 1)

theorem afterCalls_succ (reader : Reader) (calls : Nat) :
    reader.afterCalls (calls + 1) = (reader.afterCalls calls).next.2 := by
  induction calls generalizing reader with
  | zero => rfl
  | succ calls inductionHypothesis => exact inductionHypothesis reader.next.2

/-- Once a call of a reader without errors was answered with nothing, every byte has been read. -/
theorem bytesRead_of_answer
    (reader : Reader)
    (active : reader.finished = false)
    (noError : ∀ call error, reader.answer call ≠ some (.error error))
    {call : Nat}
    (ended : reader.answer call = none) :
    (reader.afterCalls (call + 1)).bytesRead = reader.total := by
  have complete : reader.finished = true → reader.reads = [] := by
    rw [active]
    exact fun finished => absurd finished Bool.false_ne_true
  have finished : (reader.afterCalls (call + 1)).finished = true := by
    rw [afterCalls_succ]
    exact (next_of_none _ ended).2
  have nothing := reader.reads_afterCalls complete noError (call + 1) finished
  have sum := reader.total_afterCalls (call + 1)
  rw [total, nothing] at sum
  exact sum

/-! ## Intact sources -/

/-- Chunks of no bytes count as chunks of one. -/
theorem ofSource_max (chunkSize : Nat) (source : List Segment) :
    ofSource chunkSize source = ofSource (max chunkSize 1) source := by
  have same : max chunkSize 1 - 1 = chunkSize - 1 := by omega
  have chunks (bytes : List UInt8) :
      Segment.chunks chunkSize bytes = Segment.chunks (max chunkSize 1) bytes := by
    fun_induction Segment.chunks chunkSize bytes with
    | case1 => rw [Segment.chunks]
    | case2 first rest inductionHypothesis =>
      rw [Segment.chunks, same, inductionHypothesis]
  have reads : Segment.reads chunkSize = Segment.reads (max chunkSize 1) := by
    funext segment
    cases segment with
    | bytes part => exact chunks part
    | interrupted => rfl
    | failure reason => rfl
  rw [ofSource, ofSource, Segment.readsOf, Segment.readsOf, reads]

/-- A reader of an intact source hands out the statements of its script. -/
theorem items_of_encoded
    (chunkSize : Nat)
    (source : List Segment)
    (script : Text)
    (intact : ∀ reason, Segment.failure reason ∉ source)
    (encoded : Segment.content source = Utf8.encode script) :
    (ofSource chunkSize source).items = (Script.statements script).map .ok := by
  obtain ⟨everything, noFailure⟩ := Segment.delivered_of_not_mem intact
  have split : Segment.delivered source = Utf8.encode script ++ [] := by
    rw [everything, encoded, List.append_nil]
  rw [items_ofSource_of_started chunkSize split .nil, noFailure]
  simp only [if_true, ← List.map_append]
  rfl

theorem countInsertsOf_ok (statements : List Statement) :
    countInsertsOf (statements.map .ok) = .ok (statements.countP Statement.isInsert) := by
  induction statements with
  | nil => rfl
  | cons statement rest inductionHypothesis =>
    simp only [List.map_cons, countInsertsOf, inductionHypothesis, List.countP_cons]
    cases statement.isInsert <;> rfl

/-- An intact source of an encoded script, however its bytes are delivered, is read as the
statements of the script, and nothing comes behind them; then all its bytes have been read.  The
INSERT statements counted are those of the script, and chunks of no bytes count as chunks of
one. -/
theorem reads_script
    (chunkSize : Nat)
    (source : List Segment)
    (script : Text)
    (intact : ∀ reason, Segment.failure reason ∉ source)
    (encoded : Segment.content source = Utf8.encode script) :
    (∀ call, (ofSource chunkSize source).answer call =
        (Script.statements script)[call]?.map .ok) ∧
      (∀ calls, (Script.statements script).length < calls →
        ((ofSource chunkSize source).afterCalls calls).bytesRead =
          (Segment.content source).length) ∧
      countInserts chunkSize source =
        .ok ((Script.statements script).countP Statement.isInsert) ∧
      ofSource chunkSize source = ofSource (max chunkSize 1) source := by
  have items := items_of_encoded chunkSize source script intact encoded
  have answers : ∀ call, (ofSource chunkSize source).answer call =
      (Script.statements script)[call]?.map .ok := by
    intro call
    rw [answer_eq_getElem?, items, List.getElem?_map]
  refine ⟨answers, ?_, ?_, ofSource_max chunkSize source⟩
  · intro calls more
    obtain ⟨call, rfl⟩ := Nat.exists_eq_succ_of_ne_zero (Nat.ne_zero_of_lt more)
    have ended : (ofSource chunkSize source).answer call = none := by
      rw [answers, List.getElem?_eq_none (Nat.le_of_lt_succ more)]
      rfl
    have noError : ∀ call error,
        (ofSource chunkSize source).answer call ≠ some (.error error) := by
      intro call error
      rw [answers]
      cases (Script.statements script)[call]? <;> simp
    rw [bytesRead_of_answer _ rfl noError ended, total, ← (Read.readsOf chunkSize source).1]
    exact Nat.zero_add _
  · rw [countInserts, items, countInsertsOf_ok]

/-- A character of two bytes that an interrupted read cuts in two. -/
theorem reads_script_cut :
    let source : List Segment := [.bytes [0x41, 0xC3], .interrupted, .bytes [0xA9, 0x3B]]
    (∀ reason, Segment.failure reason ∉ source) ∧
      Segment.content source = Utf8.encode ['A', 'é', ';'] ∧
      (∀ call, (ofSource 0 source).answer call =
        (Script.statements ['A', 'é', ';'])[call]?.map .ok) ∧
      countInserts 0 source =
        .ok ((Script.statements ['A', 'é', ';']).countP Statement.isInsert) := by
  have intact : ∀ reason, Segment.failure reason ∉
      [Segment.bytes [0x41, 0xC3], .interrupted, .bytes [0xA9, 0x3B]] := by simp
  obtain ⟨answers, -, inserts, -⟩ := reads_script 0 _ ['A', 'é', ';'] intact rfl
  exact ⟨intact, rfl, answers, inserts⟩

/-! ## Faulty sources -/

end Reader

namespace Scanner

/-- Only a semicolon completes a statement. -/
theorem State.eq_semicolon_of_step
    (state : State)
    (char : Char)
    {statement : Statement}
    (completed : (state.step char).2 = some statement) :
    char = ';' := by
  have effect := step_effect state char
  rw [completed] at effect
  generalize (state.step char).1 = next at effect
  generalize found : some statement = result at effect
  cases effect with
  | ends plain semicolon balanced => exact semicolon
  | gathers | opens | skips | endsLine | endsBlock => cases found

/-- Each statement that a scan completes is completed by a semicolon, before which exactly the
earlier ones are. -/
theorem State.exists_semicolon
    (state : State)
    (text : Text)
    (earlier : List Statement)
    (statement : Statement)
    (later : List Statement)
    (completed : (state.run text).2 = earlier ++ statement :: later) :
    ∃ part, part ++ [';'] <+: text ∧
      (state.run (part ++ [';'])).2 = earlier ++ [statement] := by
  induction text generalizing state earlier with
  | nil => simp at completed
  | cons char rest inductionHypothesis =>
    rw [run_cons] at completed
    have onlySemicolon {found : Statement} :
        (state.step char).2 = some found → char = ';' := state.eq_semicolon_of_step char
    cases taken : state.step char with
    | mk next found =>
    rw [taken] at onlySemicolon completed
    cases found with
    | none =>
      obtain ⟨part, isPrefix, ends⟩ := inductionHypothesis next earlier completed
      refine ⟨char :: part, (List.prefix_cons_inj char).mpr isPrefix, ?_⟩
      rw [List.cons_append, run_cons, taken]
      exact ends
    | some first =>
      have semicolon : char = ';' := onlySemicolon rfl
      cases earlier with
      | nil =>
        obtain ⟨rfl, -⟩ := List.cons.inj completed
        refine ⟨[], ⟨rest, by rw [semicolon]; rfl⟩, ?_⟩
        rw [List.nil_append, run_cons, ← semicolon, taken]
        rfl
      | cons other earlier =>
        obtain ⟨rfl, completedLater⟩ := List.cons.inj completed
        obtain ⟨part, isPrefix, ends⟩ := inductionHypothesis next earlier completedLater
        refine ⟨char :: part, (List.prefix_cons_inj char).mpr isPrefix, ?_⟩
        rw [List.cons_append, run_cons, taken]
        exact congrArg (first :: ·) ends

/-- The same for the first statements of a new scanner. -/
theorem exists_semicolon_of_prefix
    {script : Text}
    {earlier : List Statement}
    {statement : Statement}
    {later : List Statement}
    (isPrefix : earlier ++ statement :: later <+: (drain {} script).1) :
    ∃ part, part ++ [';'] <+: script ∧
      (drain {} (part ++ [';'])).1 = earlier ++ [statement] := by
  obtain ⟨more, whole⟩ := isPrefix
  refine State.exists_semicolon {} script earlier statement (later ++ more) ?_
  rw [← List.cons_append, ← List.append_assoc, whole]
  rfl

end Scanner

namespace Segment

/-- A read of a source fails before ill-formed bytes are met. -/
def FailsFirst (source : List Segment) (reason : Text) : Prop :=
  firstFailure? source = some reason ∧ Utf8.StartsText (delivered source)

end Segment

namespace Reader

/-- What a faulty source is read as: some statements, one error and nothing behind it. -/
structure ReadsFaulty
    (chunkSize : Nat)
    (source : List Segment)
    (script : Text)
    (statements : List Statement)
    (error : Error) : Prop where
  /-- The calls are answered with the statements, the error and then nothing. -/
  answer_eq : ∀ call, (ofSource chunkSize source).answer call =
    (statements.map .ok ++ [.error error])[call]?
  /-- If a read fails first, all statements completed in what was delivered before are there. -/
  failing : ∀ reason, Segment.FailsFirst source reason →
    error = .readFailure reason ∧ Utf8.IsLongestText (Segment.delivered source) script ∧
      statements = (Scanner.drain {} script).1
  /-- Otherwise the error names the end of the well-formed start of the whole source. -/
  illFormed : (∀ reason, ¬Segment.FailsFirst source reason) →
    error = .illFormedBytes (Utf8.encode script).length ∧
      Utf8.IsLongestText (Segment.content source) script ∧
      statements <+: (Scanner.drain {} script).1
  /-- Each statement was ended by a semicolon of the intact part. -/
  ended : ∀ earlier statement later, statements = earlier ++ statement :: later →
    ∃ part, part ++ [';'] <+: script ∧
      (Scanner.drain {} (part ++ [';'])).1 = earlier ++ [statement]

namespace ReadsFaulty

variable
  {chunkSize : Nat}
  {source : List Segment}
  {script : Text}
  {statements : List Statement}
  {error : Error}

theorem of_items
    (items : (ofSource chunkSize source).items = statements.map .ok ++ [.error error])
    (failing : ∀ reason, Segment.FailsFirst source reason →
      error = .readFailure reason ∧ Utf8.IsLongestText (Segment.delivered source) script ∧
        statements = (Scanner.drain {} script).1)
    (illFormed : (∀ reason, ¬Segment.FailsFirst source reason) →
      error = .illFormedBytes (Utf8.encode script).length ∧
        Utf8.IsLongestText (Segment.content source) script)
    (completed : statements <+: (Scanner.drain {} script).1) :
    ReadsFaulty chunkSize source script statements error where
  answer_eq call := by rw [answer_eq_getElem?, items]
  failing := failing
  illFormed never := ⟨(illFormed never).1, (illFormed never).2, completed⟩
  ended earlier statement later split := Scanner.exists_semicolon_of_prefix (split ▸ completed)

variable {rest : List UInt8}

/-- A read fails before ill-formed bytes are met. -/
theorem of_failure
    {reason : Text}
    (chunkSize : Nat)
    (split : Segment.delivered source = Utf8.encode script ++ rest)
    (started : Utf8.Started rest)
    (failure : Segment.firstFailure? source = some reason) :
    ReadsFaulty chunkSize source script (Scanner.drain {} script).1 (.readFailure reason) := by
  have items := items_ofSource_of_started chunkSize split started
  have longest : Utf8.IsLongestText (Segment.delivered source) script :=
    split ▸ Utf8.isLongestText_append script (.inl started)
  have starts : Utf8.StartsText (Segment.delivered source) :=
    split ▸ Utf8.startsText_of_started script started
  rw [failure] at items
  refine .of_items items ?_ ?_ (List.prefix_refl _)
  · rintro other ⟨first, -⟩
    obtain rfl : reason = other := Option.some.inj (failure.symm.trans first)
    exact ⟨rfl, longest, rfl⟩
  · exact fun never => absurd ⟨failure, starts⟩ (never reason)

/-- No read fails, but the last character is unfinished. -/
theorem of_unfinished
    (chunkSize : Nat)
    (intact : ∀ reason, Segment.failure reason ∉ source)
    (split : Segment.content source = Utf8.encode script ++ rest)
    (started : Utf8.Started rest)
    (unfinished : rest ≠ []) :
    ReadsFaulty chunkSize source script (Scanner.drain {} script).1
      (.illFormedBytes (Utf8.encode script).length) := by
  obtain ⟨everything, noFailure⟩ := Segment.delivered_of_not_mem intact
  have items := items_ofSource_of_started chunkSize (everything.trans split) started
  have longest : Utf8.IsLongestText (Segment.content source) script :=
    split ▸ Utf8.isLongestText_append script (.inl started)
  rw [noFailure, if_neg unfinished] at items
  refine .of_items items ?_ (fun _ => ⟨rfl, longest⟩) (List.prefix_refl _)
  rintro reason ⟨first, -⟩
  cases noFailure.symm.trans first

/-- Ill-formed bytes are met before a read fails. -/
theorem of_illFormed
    (chunkSize : Nat)
    (split : Segment.delivered source = Utf8.encode script ++ rest)
    (illFormed : Utf8.IllFormed rest) :
    ∃ statements, ReadsFaulty chunkSize source script statements
      (.illFormedBytes (Utf8.encode script).length) := by
  have noStart : ¬Utf8.StartsText (Segment.delivered source) :=
    split ▸ Utf8.not_startsText_of_illFormed script illFormed
  obtain ⟨scanned, ⟨unscanned, rfl⟩, items⟩ :=
    items_ofSource_of_illFormed chunkSize split illFormed
  -- what stands behind a failing read does not make the well-formed start longer
  have longest : Utf8.IsLongestText (Segment.content source) (scanned ++ unscanned) := by
    obtain ⟨behind, content⟩ := Segment.delivered_prefix source
    rw [← content, split, List.append_assoc]
    exact Utf8.isLongestText_append _ (.inr (illFormed.append behind))
  refine ⟨(Scanner.drain {} scanned).1, .of_items items ?_ (fun _ => ⟨rfl, longest⟩) ?_⟩
  · exact fun reason failsFirst => absurd failsFirst.2 noStart
  · rw [Scanner.drain_append]
    exact List.prefix_append _ _

end ReadsFaulty

/-- A source with a failing read, or with bytes that encode no script, yields statements completed
in its intact part, then exactly one error, then nothing more. -/
theorem reads_faulty
    (chunkSize : Nat)
    (source : List Segment)
    (faulty : (∃ reason, Segment.failure reason ∈ source) ∨
      ∀ script, Segment.content source ≠ Utf8.encode script) :
    ∃ script statements error, ReadsFaulty chunkSize source script statements error := by
  obtain ⟨script, rest, split, started | illFormed⟩ :=
    Utf8.exists_text_append (Segment.delivered source)
  · cases failure : Segment.firstFailure? source with
    | some reason => exact ⟨script, _, _, .of_failure chunkSize split started failure⟩
    | none =>
      have intact : ∀ reason, Segment.failure reason ∉ source := fun reason member =>
        Segment.firstFailure?_ne_none member failure
      rw [(Segment.delivered_of_not_mem intact).1] at split
      have unfinished : rest ≠ [] := by
        rintro rfl
        rcases faulty with ⟨reason, member⟩ | noScript
        · exact intact reason member
        · exact noScript script (split.trans (List.append_nil _))
      exact ⟨script, _, _, .of_unfinished chunkSize intact split started unfinished⟩
  · obtain ⟨statements, reads⟩ := ReadsFaulty.of_illFormed chunkSize split illFormed
    exact ⟨script, statements, _, reads⟩

/-- A character cut short: here by the byte that follows, behind which a read fails. -/
theorem reads_faulty_cut :
    let source : List Segment :=
      [.bytes [0x41, 0x3B, 0x42, 0xC3], .interrupted, .bytes [0x28, 0x3B], .failure ['e']]
    ((∃ reason, Segment.failure reason ∈ source) ∨
      ∀ script, Segment.content source ≠ Utf8.encode script) ∧
      ∃ script statements error, ReadsFaulty 3 source script statements error := by
  have faulty : ∃ reason, Segment.failure reason ∈
      [.bytes [0x41, 0x3B, 0x42, 0xC3], .interrupted, .bytes [0x28, 0x3B], .failure ['e']] :=
    ⟨['e'], by simp⟩
  exact ⟨.inl faulty, reads_faulty 3 _ (.inl faulty)⟩

end Reader
end SqlDump
