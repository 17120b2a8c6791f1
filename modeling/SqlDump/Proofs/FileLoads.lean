import SqlDump.Proofs.LoadPlan

/-!
# Loading a file

A file is read twice: its INSERT statements are counted before it is loaded.  If the file is
well-formed, they are as many as the second reading delivers, and a load that ends without a
failure has executed or counted as failed each of them.  If it is not, nothing is done.
-/

namespace SqlDump

/-! ## Calls of a load that succeeds -/

namespace Executor

theorem failedIn_of_succeeds
    {executor : Executor}
    {calls : List Call}
    (succeeds : executor.Succeeds [] calls) :
    executor.failedIn calls = 0 := by
  rw [failedIn, List.sum_eq_zero_iff_forall_eq_nat]
  intro count member
  obtain ⟨⟨call, answer⟩, answered, rfl⟩ := List.mem_map.mp member
  cases answer with
  | done executed => rfl
  | failed reason => exact absurd answered (succeeds call reason)

/-- A batch whose statements all count as executed was reported as executed as a whole. -/
theorem eq_length_of_all
    {executor : Executor}
    {calls : List Call}
    (settled : (executor.answers calls).all (fun entry =>
      entry.1.executedBy entry.2 + entry.1.failedBy entry.2 == entry.1.size) = true)
    (batch : List Text)
    (count : Nat)
    (answered : (Call.batch batch, Answer.done count) ∈ executor.answers calls) :
    count = batch.length := by
  have sizes := List.all_eq_true.mp settled _ answered
  simpa [Call.executedBy, Call.failedBy, Call.size] using sizes

end Executor

namespace Call

theorem Carries.length_texts
    {policy : LargeTextPolicy}
    {call : Call}
    {texts : List Text}
    (carries : call.Carries policy texts) :
    texts.length = call.size := by
  cases carries with
  | batch small => rfl
  | prepared large prepares => rfl

theorem sum_size_of_carries
    {policy : LargeTextPolicy}
    {calls : List Call}
    {parts : List (List Text)}
    (carry : List.Forall₂ (Carries policy) calls parts) :
    (calls.map size).sum = parts.flatten.length := by
  induction carry with
  | nil => rfl
  | cons first rest inductionHypothesis =>
    rw [List.map_cons, List.sum_cons, inductionHypothesis, List.flatten_cons, List.length_append,
      first.length_texts]

end Call

theorem Operation.statements_load (statements : List Statement) :
    Operation.statements (statements.map .handle ++ [.flush]) = statements := by
  induction statements with
  | nil => rfl
  | cons statement rest inductionHypothesis => exact congrArg (statement :: ·) inductionHypothesis

namespace Reader

theorem statementsOf_ok (statements : List Statement) :
    statementsOf (statements.map .ok) = statements := by
  induction statements with
  | nil => rfl
  | cons statement rest inductionHypothesis => exact congrArg (statement :: ·) inductionHypothesis

/-- Nothing is counted if the reading ends with an error. -/
theorem countInsertsOf_error (statements : List Statement) (error : Error) :
    countInsertsOf (statements.map .ok ++ [.error error]) = .error error := by
  induction statements with
  | nil => rfl
  | cons statement rest inductionHypothesis =>
    rw [List.map_cons, List.cons_append, countInsertsOf, inductionHypothesis]

/-- Bytes behind a script that no script can go on with are found, wherever they stand. -/
theorem countInserts_of_undecodable
    (chunkSize : Nat)
    {source : List Segment}
    {script : Text}
    {rest : List UInt8}
    (intact : ∀ reason, Segment.failure reason ∉ source)
    (split : Segment.content source = Utf8.encode script ++ rest)
    (ending : Utf8.Started rest ∨ Utf8.IllFormed rest)
    (some : rest ≠ []) :
    countInserts chunkSize source = .error (.illFormedBytes (Utf8.encode script).length) := by
  obtain ⟨delivered, noFailure⟩ := Segment.delivered_of_not_mem intact
  have whole : Segment.delivered source = Utf8.encode script ++ rest := delivered.trans split
  rw [countInserts]
  rcases ending with started | illFormed
  · rw [items_ofSource_of_started chunkSize whole started, noFailure, if_neg some]
    exact countInsertsOf_error _ _
  · obtain ⟨scanned, -, items⟩ := items_ofSource_of_illFormed chunkSize whole illFormed
    rw [items]
    exact countInsertsOf_error _ _

end Reader

namespace Loader

variable
  {loader : Loader}
  {load : Load}
  {plan : Plan}
  {result : Except Failure Unit × Load}

/-- If a loader that stops at failures ends without one, none of its calls failed. -/
theorem CarriesOut.exists_succeeds
    (carried : loader.CarriesOut load plan result)
    (stopping : loader.config.continueOnError = false)
    (succeeded : result.1 = .ok ()) :
    ∃ made, result.2.calls = load.calls ++ made ∧ loader.executor.Succeeds load.calls made := by
  cases carried with
  | completes succeeds calls waiting total => exact ⟨plan.calls, calls, succeeds stopping⟩
  | stops stops planned succeeds fails calls waiting total => cases succeeded

/-- Executing what waits leaves nothing waiting, also if it fails. -/
theorem pending_flush (loader : Loader) (load : Load) : (loader.flush load).2.pending = [] := by
  rcases (carriesOut_flush loader load).pending with waiting | nothing
  · exact waiting
  · exact nothing

/-- A source that is loaded without a failure leaves nothing waiting. -/
theorem pending_run
    {source : List Segment}
    (succeeded : (loader.run source load).1 = .ok ()) :
    (loader.run source load).2.pending = [] := by
  unfold run at succeeded ⊢
  generalize loader.handleAll _ load = result at succeeded ⊢
  obtain ⟨outcome, handled⟩ := result
  cases outcome with
  | ok => exact pending_flush loader handled
  | error failure => cases succeeded

theorem length_acceptedTexts_add (loader : Loader) (statements : List Statement) :
    (loader.acceptedTexts statements).length + statements.countP loader.rejects =
      statements.countP Statement.isInsert := by
  induction statements with
  | nil => rfl
  | cons statement rest inductionHypothesis =>
    unfold acceptedTexts at inductionHypothesis ⊢
    rw [List.filter_cons, List.countP_cons, List.countP_cons, rejects]
    cases statement.isInsert with
    | false => simpa using inductionHypothesis
    | true =>
      rw [if_pos rfl, List.filterMap_cons]
      cases loader.accepted? statement with
      | none =>
        simp only [Option.isNone_none, Bool.and_self, if_true]
        omega
      | some text =>
        simp only [Option.isNone_some, Bool.and_false, Bool.false_eq_true, if_false, if_true,
          List.length_cons]
        omega

/-- An intact source that is loaded without a failure has each INSERT statement passed on, unless
it is rejected, which happens only if the settings ask to go on. -/
theorem sizes_run
    {source : List Segment}
    {script : Text}
    (intact : ∀ reason, Segment.failure reason ∉ source)
    (encoded : Segment.content source = Utf8.encode script)
    (total : Nat)
    (succeeded : (loader.run source { summary := { total } }).1 = .ok ()) :
    ((loader.run source { summary := { total } }).2.calls.map Call.size).sum +
          (Script.statements script).countP loader.rejects =
        (Script.statements script).countP Statement.isInsert ∧
      (loader.config.continueOnError = false →
        (Script.statements script).countP loader.rejects = 0) := by
  have nothing := pending_run succeeded
  have performed : loader.run source { summary := { total } } =
      loader.performAll ((Script.statements script).map .handle ++ [.flush])
        { summary := { total } } := by
    rw [run, Reader.items_of_encoded _ source script intact encoded]
    exact (performAll_handle_flush loader _ _).symm
  rw [performed] at succeeded nothing ⊢
  have start : Load.Holds loader.config.largeText { summary := { total } } [] :=
    (Load.Holds.start loader.config.largeText).of_eq rfl rfl
  obtain ⟨⟨⟨parts, carry, whole⟩, -⟩, goesOn⟩ := holds_performAll start _ succeeded
  rw [nothing, List.append_nil, List.nil_append] at whole
  rw [Operation.statements_load] at whole goesOn
  constructor
  · rw [Call.sum_size_of_carries carry, whole]
    exact length_acceptedTexts_add loader _
  · intro stopping
    rw [List.countP_eq_zero]
    intro statement member rejected
    simp only [rejects, Bool.and_eq_true, Option.isNone_iff_eq_none] at rejected
    have goes := goesOn statement member rejected.1 rejected.2
    exact absurd (stopping.symm.trans goes) Bool.false_ne_true

/-- An intact source that is loaded without a failure has all its failed statements counted. -/
theorem failed_run
    {source : List Segment}
    {script : Text}
    (intact : ∀ reason, Segment.failure reason ∉ source)
    (encoded : Segment.content source = Utf8.encode script)
    (total : Nat)
    (succeeded : (loader.run source { summary := { total } }).1 = .ok ()) :
    let load := (loader.run source { summary := { total } }).2
    load.summary.executed = loader.executor.executedIn load.calls ∧
      (loader.config.continueOnError = false → load.summary.failed = 0) ∧
      load.summary.failed = loader.executor.failedIn load.calls +
        (Script.statements script).countP loader.rejects := by
  intro load
  have accounts := accounts_run ((Accounts.start loader).setTotal total) source
  rw [Reader.statements, Reader.items_of_encoded _ source script intact encoded,
    Reader.statementsOf_ok, Nat.zero_add] at accounts
  refine ⟨accounts.executed, accounts.stopped, ?_⟩
  cases goesOn : loader.config.continueOnError with
  | true => exact accounts.failed goesOn
  | false =>
    obtain ⟨made, calls, succeeds⟩ := (carriesOut_run loader source _).exists_succeeds goesOn
      succeeded
    have noneFailed : loader.executor.failedIn load.calls = 0 := by
      rw [calls, List.nil_append]
      exact Executor.failedIn_of_succeeds succeeds
    rw [accounts.stopped goesOn, noneFailed,
      (sizes_run intact encoded total succeeded).2 goesOn]

/-! ## Well-formed files -/

/-- However the bytes of an encoded script are delivered in the two readings of a file, a new
loader notes as many INSERT statements as the second reading delivers.  If it ends without a
failure, and its executor reports every successful batch as executed as a whole, each of them has
been executed or has failed, and nothing waits; if it stops at failures, none has failed. -/
theorem runCounted_counts
    (loader : Loader)
    (script : Text)
    (counted loaded : List Segment)
    (countedIntact : ∀ reason, Segment.failure reason ∉ counted)
    (countedEncoded : Segment.content counted = Utf8.encode script)
    (loadedIntact : ∀ reason, Segment.failure reason ∉ loaded)
    (loadedEncoded : Segment.content loaded = Utf8.encode script) :
    let result := loader.runCounted counted loaded {}
    let summary := result.2.summary
    let statements := Reader.statements loader.config.chunkSize loaded
    (Reader.ofSource loader.config.chunkSize loaded).items = statements.map .ok ∧
      summary.total = statements.countP Statement.isInsert ∧
      (result.1 = .ok () →
        (∀ batch count,
          (Call.batch batch, Answer.done count) ∈ loader.executor.answers result.2.calls →
            count = batch.length) →
        summary.executed + summary.failed = summary.total ∧ result.2.pending = [] ∧
          (loader.config.continueOnError = false → summary.failed = 0)) := by
  intro result summary statements
  have items := Reader.items_of_encoded loader.config.chunkSize loaded script loadedIntact
    loadedEncoded
  have delivered : statements = Script.statements script := by
    rw [← Reader.statementsOf_ok (Script.statements script), ← items]
    rfl
  let total := (Script.statements script).countP Statement.isInsert
  have counts : Reader.countInserts loader.config.chunkSize counted = .ok total := by
    rw [Reader.countInserts, Reader.items_of_encoded _ counted script countedIntact countedEncoded,
      Reader.countInsertsOf_ok]
  have runs : result = loader.run loaded { summary := { total } } := by
    simp only [result, runCounted, counts]
  have noted : summary.total = total := by
    simp only [summary, runs]
    exact (carriesOut_run loader loaded _).total
  rw [delivered]
  refine ⟨items, noted, ?_⟩
  intro succeeded whole
  rw [runs] at succeeded
  obtain ⟨executed, stopped, failed⟩ := failed_run loadedIntact loadedEncoded total succeeded
  obtain ⟨sizes, -⟩ := sizes_run loadedIntact loadedEncoded total succeeded
  have nothing := pending_run succeeded
  rw [← runs] at executed stopped failed sizes nothing
  refine ⟨?_, nothing, stopped⟩
  calc summary.executed + summary.failed
      = loader.executor.executedIn result.2.calls + loader.executor.failedIn result.2.calls +
          (Script.statements script).countP loader.rejects := by
        rw [executed, failed, Nat.add_assoc]
    _ = (result.2.calls.map Call.size).sum + (Script.statements script).countP loader.rejects := by
        rw [loader.executor.executedIn_add_failedIn result.2.calls whole]
    _ = summary.total := sizes.trans noted.symm

/-- A loader of which only the first batch succeeds goes on; another, whose executor never fails,
stops at failures. -/
theorem runCounted_counts_of_failing :
    let executor : Executor := fun earlier call =>
      match call with
      | .batch texts => if earlier = [] then .done texts.length else .failed ['e']
      | .prepared _ => .done 1
    let config : Config := {
      batchSize := 2, continueOnError := true, largeText := { maxBytes := 3, maxChars := 3 } }
    let going : Loader := { config, executor }
    let stopping : Loader := { config := { batchSize := 2 }, executor }
    let script := ("INSERT INTO t VALUES (1); COMMIT; INSERT 'large';" ++
      "INSERT INTO t VALUES ('large'); INSERT INTO t VALUES (3)").toList
    let other := "INSERT INTO t VALUES (1); COMMIT; INSERT INTO t VALUES (2)".toList
    let load := (going.runFile (Utf8.encode script) {}).2
    let otherLoad := (stopping.runFile (Utf8.encode other) {}).2
    load.summary = { executed := 2, failed := 2, total := 4 } ∧ load.pending = [] ∧
      otherLoad.summary.executed + otherLoad.summary.failed = 2 ∧
      otherLoad.summary.failed = 0 := by
  intro executor config going stopping script other load otherLoad
  have delivers (text : Text) :
      (∀ reason, Segment.failure reason ∉ [Segment.bytes (Utf8.encode text)]) ∧
        Segment.content [.bytes (Utf8.encode text)] = Utf8.encode text :=
    ⟨by simp, List.append_nil _⟩
  have items (chunkSize : Nat) (text : Text) :
      (Reader.ofSource chunkSize [.bytes (Utf8.encode text)]).items =
        (Script.statements text).map .ok :=
    Reader.items_of_encoded _ _ text (delivers text).1 (delivers text).2
  have evaluated : (going.runFile (Utf8.encode script) {}).1 = .ok () ∧
      load.summary = { executed := 2, failed := 2, total := 4 } ∧
      (going.executor.answers load.calls).all (fun entry =>
        entry.1.executedBy entry.2 + entry.1.failedBy entry.2 == entry.1.size) = true := by
    simp only [load, runFile, runCounted, Reader.countInserts, run, items]
    decide +kernel
  have otherEvaluated : (stopping.runFile (Utf8.encode other) {}).1 = .ok () ∧
      otherLoad.summary.total = 2 ∧
      (stopping.executor.answers otherLoad.calls).all (fun entry =>
        entry.1.executedBy entry.2 + entry.1.failedBy entry.2 == entry.1.size) = true := by
    simp only [otherLoad, runFile, runCounted, Reader.countInserts, run, items]
    decide +kernel
  obtain ⟨succeeded, summary, settled⟩ := evaluated
  obtain ⟨otherSucceeded, total, otherSettled⟩ := otherEvaluated
  obtain ⟨-, -, counts⟩ := runCounted_counts going script _ _ (delivers script).1
    (delivers script).2 (delivers script).1 (delivers script).2
  obtain ⟨-, -, otherCounts⟩ := runCounted_counts stopping other _ _ (delivers other).1
    (delivers other).2 (delivers other).1 (delivers other).2
  obtain ⟨-, nothing, -⟩ := counts succeeded (Executor.eq_length_of_all settled)
  obtain ⟨sum, -, noneFailed⟩ := otherCounts otherSucceeded
    (Executor.eq_length_of_all otherSettled)
  exact ⟨summary, nothing, sum.trans total, noneFailed rfl⟩

/-! ## Files that are not well-formed -/

/-- A file whose bytes encode no script is not loaded at all: the error names the end of its
well-formed start, and the load is as before.  This does not depend on how the bytes are
delivered. -/
theorem runFile_of_undecodable
    (loader : Loader)
    (content : List UInt8)
    (undecodable : ∀ script, content ≠ Utf8.encode script)
    (load : Load) :
    ∃ script, Utf8.IsLongestText content script ∧
      loader.runFile content load =
        (.error (.rejected (.illFormedBytes (Utf8.encode script).length)), load) ∧
      ∀ counted loaded, (∀ reason, Segment.failure reason ∉ counted) →
        Segment.content counted = content →
        loader.runCounted counted loaded load = loader.runFile content load := by
  obtain ⟨script, rest, split, ending⟩ := Utf8.exists_text_append content
  have longest : Utf8.IsLongestText content script := by
    rw [split]
    exact Utf8.isLongestText_append script ending
  have unfinished : rest ≠ [] := by
    rintro rfl
    exact undecodable script (split.trans (List.append_nil _))
  have fails (counted loaded : List Segment) (intact : ∀ reason, Segment.failure reason ∉ counted)
      (delivers : Segment.content counted = content) :
      loader.runCounted counted loaded load =
        (.error (.rejected (.illFormedBytes (Utf8.encode script).length)), load) := by
    rw [runCounted, Reader.countInserts_of_undecodable _ intact (delivers.trans split) ending
      unfinished]
  have file := fails [.bytes content] [.bytes content] (by simp) (List.append_nil content)
  refine ⟨script, longest, file, ?_⟩
  intro counted loaded intact delivers
  exact (fails counted loaded intact delivers).trans file.symm

/-- A statement in front of a character that is cut short. -/
theorem runFile_of_undecodable_cut :
    let loader : Loader := { config := { chunkSize := 2 }, executor := fun _ _ => .done 1 }
    let content : List UInt8 := Utf8.encode "INSERT INTO t VALUES (1);".toList ++ [0xC3, 0x28]
    let load : Load := { pending := [['t']], summary := { executed := 1 } }
    (∀ script, content ≠ Utf8.encode script) ∧
      ∃ script, Utf8.IsLongestText content script ∧
        loader.runFile content load =
          (.error (.rejected (.illFormedBytes (Utf8.encode script).length)), load) ∧
        loader.runCounted [.bytes content, .interrupted] [] load =
          loader.runFile content load := by
  intro loader content load
  have undecodable : ∀ script, content ≠ Utf8.encode script := by
    intro script same
    have decoded := Utf8.decode_encode script
    have failed : Utf8.decode content = .error 25 := by decide +kernel
    rw [← same, failed] at decoded
    cases decoded
  obtain ⟨script, longest, file, delivered⟩ :=
    runFile_of_undecodable loader content undecodable load
  refine ⟨undecodable, script, longest, file, delivered _ _ (by simp) ?_⟩
  exact List.append_nil content

end Loader
end SqlDump
