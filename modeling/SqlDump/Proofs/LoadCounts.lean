import Mathlib.Algebra.Ring.Nat
import SqlDump.Proofs.Loading

/-!
# What a loader counts

A loader may be asked, in any order and also after failures, to handle statements, to execute
what waits, and to load sources and files.  Its counts are always those of the answers that its
calls got and of the statements it rejected.  A loader that goes on after failures counts every
INSERT statement that it handles once, unless the statement still waits.
-/

namespace SqlDump

/-! ## Calls and their answers -/

namespace Call

/-- The number of statements passed on. -/
def size : Call → Nat
  | .batch statements => statements.length
  | .prepared _ => 1

/-- The number of statements executed: of a batch, as many as the answer says. -/
def executedBy : Call → Answer → Nat
  | .batch _, .done count => count
  | .prepared _, .done _ => 1
  | _, .failed _ => 0

/-- The number of statements that failed: of a batch, all or none. -/
def failedBy : Call → Answer → Nat
  | _, .done _ => 0
  | call, .failed _ => call.size

@[simp] theorem executedBy_failed (call : Call) (reason : Text) :
    call.executedBy (.failed reason) = 0 := by
  cases call <;> rfl

/-- A successful call has executed all it passed on, if a batch says so. -/
theorem executedBy_add_failedBy
    (call : Call)
    (answer : Answer)
    (whole : ∀ statements count, call = .batch statements → answer = .done count →
      count = statements.length) :
    call.executedBy answer + call.failedBy answer = call.size := by
  cases answer with
  | failed reason =>
    rw [executedBy_failed]
    exact Nat.zero_add _
  | done count =>
    cases call with
    | batch statements => exact whole statements count rfl rfl
    | prepared insert => rfl

end Call

namespace Executor

/-- Some calls, each with its answer, that follow earlier calls. -/
def answersAfter (executor : Executor) : List Call → List Call → List (Call × Answer)
  | _, [] => []
  | earlier, call :: rest =>
    (call, executor earlier call) :: answersAfter executor (earlier ++ [call]) rest

/-- The first calls of an executor, each with its answer. -/
def answers (executor : Executor) (calls : List Call) : List (Call × Answer) :=
  executor.answersAfter [] calls

/-- The number of statements that the first calls executed. -/
def executedIn (executor : Executor) (calls : List Call) : Nat :=
  ((executor.answers calls).map fun entry => entry.1.executedBy entry.2).sum

/-- The number of statements that failed in the first calls. -/
def failedIn (executor : Executor) (calls : List Call) : Nat :=
  ((executor.answers calls).map fun entry => entry.1.failedBy entry.2).sum

theorem answersAfter_append
    (executor : Executor)
    (earlier calls later : List Call) :
    executor.answersAfter earlier (calls ++ later) =
      executor.answersAfter earlier calls ++ executor.answersAfter (earlier ++ calls) later := by
  induction calls generalizing earlier with
  | nil => simp [answersAfter]
  | cons call rest inductionHypothesis => simp [answersAfter, inductionHypothesis]

/-- A further call is answered with all calls before it known. -/
theorem answers_concat (executor : Executor) (calls : List Call) (call : Call) :
    executor.answers (calls ++ [call]) =
      executor.answers calls ++ [(call, executor calls call)] := by
  rw [answers, answersAfter_append]
  rfl

theorem executedIn_concat (executor : Executor) (calls : List Call) (call : Call) :
    executor.executedIn (calls ++ [call]) =
      executor.executedIn calls + call.executedBy (executor calls call) := by
  simp [executedIn, answers_concat]

theorem failedIn_concat (executor : Executor) (calls : List Call) (call : Call) :
    executor.failedIn (calls ++ [call]) =
      executor.failedIn calls + call.failedBy (executor calls call) := by
  simp [failedIn, answers_concat]

/-- If every successful batch is reported as executed as a whole, each statement passed on was
executed or failed. -/
theorem executedIn_add_failedIn
    (executor : Executor)
    (calls : List Call)
    (whole : ∀ statements count,
      (Call.batch statements, Answer.done count) ∈ executor.answers calls →
        count = statements.length) :
    executor.executedIn calls + executor.failedIn calls = (calls.map Call.size).sum := by
  unfold executedIn failedIn answers at *
  generalize [] = earlier at whole ⊢
  induction calls generalizing earlier with
  | nil => rfl
  | cons call rest inductionHypothesis =>
    simp only [answersAfter, List.mem_cons, List.map_cons, List.sum_cons] at whole ⊢
    have later := inductionHypothesis (earlier ++ [call]) fun statements count member =>
      whole statements count (.inr member)
    have first := call.executedBy_add_failedBy (executor earlier call)
      fun statements count batch done =>
        whole statements count (.inl (Prod.ext batch.symm done.symm))
    omega

end Executor

/-! ## Requests -/

namespace Reader

/-- The statements in front of the first error. -/
def statementsOf : List (Except Error Statement) → List Statement
  | [] => []
  | .error _ :: _ => []
  | .ok statement :: rest => statement :: statementsOf rest

/-- The statements that a source delivers. -/
def statements (chunkSize : Nat) (source : List Segment) : List Statement :=
  statementsOf (ofSource chunkSize source).items

end Reader

/-- What can be asked of a loader that may have failed before. -/
inductive Request where
  /-- To handle a statement. -/
  | handle (statement : Statement)
  /-- To execute the statements that wait. -/
  | flush
  /-- To load a source. -/
  | run (source : List Segment)
  /-- To count the INSERT statements of a file and load it, which is to read it twice.  A file
  that cannot be opened delivers a failure only. -/
  | runFile (counted loaded : List Segment)
  deriving DecidableEq, Repr

namespace Request

/-- The statements that a loader which goes on after failures handles on a request. -/
def statements (chunkSize : Nat) : Request → List Statement
  | .handle statement => [statement]
  | .flush => []
  | .run source => Reader.statements chunkSize source
  | .runFile counted loaded =>
    match Reader.countInserts chunkSize counted with
    | .error _ => []
    | .ok _ => Reader.statements chunkSize loaded

end Request

namespace Loader

/-- Does what is asked. -/
def serve (loader : Loader) : Request → Load → Except Failure Unit × Load
  | .handle statement => loader.handle statement
  | .flush => loader.flush
  | .run source => loader.run source
  | .runFile counted loaded => loader.runCounted counted loaded

/-- How far a loader has come after some requests, whether or not they failed. -/
def serveAll (loader : Loader) : List Request → Load → Load
  | [], load => load
  | request :: rest, load => loader.serveAll rest (loader.serve request load).2

/-- Whether a statement is an INSERT statement that cannot be passed on: its column cannot be
removed, or it has an oversized string and cannot be prepared. -/
def rejects (loader : Loader) (statement : Statement) : Bool :=
  statement.isInsert && (loader.accepted? statement).isNone

/-- The counts of a load are those of the answers to its calls and of a number of rejected
statements.  If the loader goes on after failures, the statements passed on, rejected and waiting
are together a number of INSERT statements. -/
structure Accounts (loader : Loader) (rejected inserts : Nat) (load : Load) : Prop where
  executed : load.summary.executed = loader.executor.executedIn load.calls
  stopped : loader.config.continueOnError = false → load.summary.failed = 0
  failed : loader.config.continueOnError = true →
    load.summary.failed = loader.executor.failedIn load.calls + rejected
  passedOn : loader.config.continueOnError = true →
    (load.calls.map Call.size).sum + rejected + load.pending.length = inserts

namespace Accounts

variable {loader : Loader} {load : Load} {rejected inserts : Nat}

theorem start (loader : Loader) : loader.Accounts 0 0 {} where
  executed := rfl
  stopped := fun _ => rfl
  failed := fun _ => rfl
  passedOn := fun _ => rfl

/-- A loader that stops at a failure does not count what it rejects. -/
theorem of_stops
    (accounts : loader.Accounts rejected inserts load)
    (stops : loader.config.continueOnError = false)
    (otherRejected otherInserts : Nat) :
    loader.Accounts otherRejected otherInserts load where
  executed := accounts.executed
  stopped := accounts.stopped
  failed := fun goesOn => absurd (stops.symm.trans goesOn) Bool.false_ne_true
  passedOn := fun goesOn => absurd (stops.symm.trans goesOn) Bool.false_ne_true

/-- The total is independent of the other counts. -/
theorem setTotal (accounts : loader.Accounts rejected inserts load) (total : Nat) :
    loader.Accounts rejected inserts { load with summary := { load.summary with total } } :=
  ⟨accounts.executed, accounts.stopped, accounts.failed, accounts.passedOn⟩

/-- A further text may wait. -/
theorem gather (accounts : loader.Accounts rejected inserts load) (text : Text) :
    loader.Accounts rejected (inserts + 1) { load with pending := load.pending ++ [text] } where
  executed := accounts.executed
  stopped := accounts.stopped
  failed := accounts.failed
  passedOn := by
    intro goesOn
    rw [← accounts.passedOn goesOn, List.length_append]
    rfl

/-- A failure makes up for what is missing in the count of failed statements. -/
theorem fail
    (load : Load)
    (executed : load.summary.executed = loader.executor.executedIn load.calls)
    (stopped : loader.config.continueOnError = false → load.summary.failed = 0)
    {count : Nat}
    (failed : loader.config.continueOnError = true →
      load.summary.failed + count = loader.executor.failedIn load.calls + rejected)
    (passedOn : loader.config.continueOnError = true →
      (load.calls.map Call.size).sum + rejected + load.pending.length = inserts)
    (failure : Failure) :
    loader.Accounts rejected inserts (loader.fail failure count load).2 := by
  cases goesOn : loader.config.continueOnError with
  | false =>
    simp only [Loader.fail, goesOn, Bool.false_eq_true, if_false]
    refine ⟨executed, stopped, ?_, passedOn⟩
    simp [goesOn]
  | true =>
    simp only [Loader.fail, goesOn, if_true]
    refine ⟨executed, ?_, failed, passedOn⟩
    simp [goesOn]

/-- A statement that is rejected is a failure. -/
theorem reject (accounts : loader.Accounts rejected inserts load) (failure : Failure) :
    loader.Accounts (rejected + 1) (inserts + 1) (loader.fail failure 1 load).2 := by
  refine fail load accounts.executed accounts.stopped ?_ ?_ failure
  · intro goesOn
    rw [accounts.failed goesOn, Nat.add_assoc]
  · intro goesOn
    rw [← accounts.passedOn goesOn]
    omega

/-- A call that passes on texts that waited, and statements that never waited, is counted by its
answer. -/
theorem settle
    (accounts : loader.Accounts rejected inserts load)
    (call : Call)
    (waiting : List Text)
    (failure : Text → Failure)
    {direct : Nat}
    (sizes : call.size + waiting.length = load.pending.length + direct) :
    let asked := { load with pending := waiting }.noteCall call
    let outcome : Except Failure Unit × Load :=
      match loader.executor load.calls call with
      | .done count => (.ok (), asked.addExecuted (call.executedBy (.done count)))
      | .failed reason => loader.fail (failure reason) call.size asked
    loader.Accounts rejected (inserts + direct) outcome.2 := by
  intro asked outcome
  have passedOn : loader.config.continueOnError = true →
      (asked.calls.map Call.size).sum + rejected + asked.pending.length = inserts + direct := by
    intro goesOn
    have before := accounts.passedOn goesOn
    simp only [asked, Load.noteCall, List.map_append, List.sum_append, List.map_cons,
      List.map_nil, List.sum_cons, List.sum_nil]
    omega
  have executed := Executor.executedIn_concat loader.executor load.calls call
  have failed := Executor.failedIn_concat loader.executor load.calls call
  cases answered : loader.executor load.calls call with
  | done count =>
    rw [answered] at executed failed
    simp only [outcome, answered]
    refine ⟨?_, accounts.stopped, ?_, passedOn⟩
    · exact (congrArg (· + _) accounts.executed).trans executed.symm
    · intro goesOn
      exact (accounts.failed goesOn).trans (congrArg (· + rejected) failed.symm)
  | failed reason =>
    rw [answered] at executed failed
    rw [Call.executedBy_failed, Nat.add_zero] at executed
    simp only [outcome, answered]
    refine fail asked ?_ accounts.stopped ?_ passedOn (failure reason)
    · exact accounts.executed.trans executed.symm
    · intro goesOn
      have before := accounts.failed goesOn
      simp only [asked, Load.noteCall, failed, before, Call.failedBy]
      omega

end Accounts

/-! ## Single steps -/

variable {loader : Loader} {load : Load} {rejected inserts : Nat}

theorem fail_of_goesOn
    (goesOn : loader.config.continueOnError = true)
    (failure : Failure)
    (count : Nat)
    (load : Load) :
    (loader.fail failure count load).1 = .ok () := by
  simp [fail, goesOn]

theorem flush_of_goesOn (goesOn : loader.config.continueOnError = true) (load : Load) :
    (loader.flush load).1 = .ok () := by
  unfold flush
  split_ifs with empty
  · rfl
  · dsimp only
    split
    · rfl
    · exact fail_of_goesOn goesOn _ _ _

theorem executePrepared_of_goesOn
    (goesOn : loader.config.continueOnError = true)
    (text : Text)
    (load : Load) :
    (loader.executePrepared text load).1 = .ok () := by
  unfold executePrepared
  split
  · exact fail_of_goesOn goesOn _ _ _
  · dsimp only
    split
    · rfl
    · exact fail_of_goesOn goesOn _ _ _

theorem submit_of_goesOn
    (goesOn : loader.config.continueOnError = true)
    (text : Text)
    (load : Load) :
    (loader.submit text load).1 = .ok () := by
  have flushed := flush_of_goesOn goesOn load
  unfold submit
  split
  · generalize loader.flush load = result at flushed ⊢
    obtain ⟨outcome, after⟩ := result
    cases flushed
    exact executePrepared_of_goesOn goesOn text after
  · dsimp only
    split
    · exact flush_of_goesOn goesOn _
    · rfl

theorem handle_of_goesOn
    (goesOn : loader.config.continueOnError = true)
    (statement : Statement)
    (load : Load) :
    (loader.handle statement load).1 = .ok () := by
  unfold handle
  split
  · split
    · exact submit_of_goesOn goesOn _ load
    · exact fail_of_goesOn goesOn _ _ _
  · rfl

theorem stops_of_error
    {result : Except Failure Unit × Load}
    {failure : Failure}
    (succeeds : loader.config.continueOnError = true → result.1 = .ok ())
    (failed : result.1 = .error failure) :
    loader.config.continueOnError = false := by
  rw [Bool.eq_false_iff]
  intro goesOn
  cases (succeeds goesOn).symm.trans failed

/-- Executing what waits leaves the statements accounted for. -/
theorem accounts_flush (accounts : loader.Accounts rejected inserts load) :
    loader.Accounts rejected inserts (loader.flush load).2 := by
  unfold flush
  split_ifs with empty
  · exact accounts
  · exact accounts.settle (.batch load.pending) [] (.batch load.pending.length) rfl

/-- A statement executed by itself is passed on or rejected. -/
theorem accounts_executePrepared
    (accounts : loader.Accounts rejected inserts load)
    (text : Text) :
    loader.Accounts
      (rejected + if (Insert.prepare loader.config.largeText text).isOk then 0 else 1)
      (inserts + 1) (loader.executePrepared text load).2 := by
  unfold executePrepared
  cases prepares : Insert.prepare loader.config.largeText text with
  | error error => exact accounts.reject (.rejected error)
  | ok prepared =>
    exact accounts.settle (.prepared prepared) load.pending .executor (Nat.add_comm _ _)

/-- A text that is submitted is accounted for as one INSERT statement. -/
theorem accounts_submit
    (accounts : loader.Accounts rejected inserts load)
    (text : Text) :
    loader.Accounts (rejected + if loader.accepts text then 0 else 1) (inserts + 1)
      (loader.submit text load).2 := by
  cases large : loader.config.largeText.isExceededIn text with
  | false =>
    have accepted : loader.accepts text = true := by simp [accepts, large]
    simp only [submit, large, accepted, Bool.false_eq_true, if_false, if_true]
    split
    · exact accounts_flush (accounts.gather text)
    · exact accounts.gather text
  | true =>
    have accepted : loader.accepts text = (Insert.prepare loader.config.largeText text).isOk := by
      simp [accepts, large]
    have flushed := accounts_flush accounts
    have succeeds : loader.config.continueOnError = true → (loader.flush load).1 = .ok () :=
      fun goesOn => flush_of_goesOn goesOn load
    simp only [submit, large, accepted, if_true]
    generalize loader.flush load = result at flushed succeeds ⊢
    obtain ⟨outcome, after⟩ := result
    cases outcome with
    | ok => exact accounts_executePrepared flushed text
    | error failure => exact flushed.of_stops (stops_of_error succeeds rfl) _ _

/-- A statement that is handled is accounted for if it is an INSERT statement. -/
theorem accounts_handle
    (accounts : loader.Accounts rejected inserts load)
    (statement : Statement) :
    loader.Accounts (rejected + if loader.rejects statement then 1 else 0)
      (inserts + if statement.isInsert then 1 else 0) (loader.handle statement load).2 := by
  cases insert : statement.isInsert with
  | false => simpa [handle, rejects, insert] using accounts
  | true =>
    simp only [handle, rejects, insert, if_true, Bool.true_and]
    cases text? : loader.textOf statement with
    | error error => simpa [accepted?_of_error text?] using accounts.reject (.rejected error)
    | ok text =>
      have submitted := accounts_submit accounts text
      rw [accepted?_of_ok text?]
      cases acceptable : loader.accepts text with
      | true => simpa [acceptable] using submitted
      | false => simpa [acceptable] using submitted

/-! ## Sequences -/

/-- The statements in front of the first error are accounted for. -/
theorem accounts_handleAll
    (accounts : loader.Accounts rejected inserts load)
    (items : List (Except Error Statement)) :
    loader.Accounts (rejected + (Reader.statementsOf items).countP loader.rejects)
      (inserts + (Reader.statementsOf items).countP Statement.isInsert)
      (loader.handleAll items load).2 := by
  induction items generalizing load rejected inserts with
  | nil => exact accounts
  | cons item rest inductionHypothesis =>
    cases item with
    | error error => exact accounts
    | ok statement =>
      have handled := accounts_handle accounts statement
      have succeeds : loader.config.continueOnError = true →
          (loader.handle statement load).1 = .ok () :=
        fun goesOn => handle_of_goesOn goesOn statement load
      simp only [handleAll, Reader.statementsOf, List.countP_cons, Nat.add_comm (List.countP _ _),
        ← Nat.add_assoc]
      generalize loader.handle statement load = result at handled succeeds ⊢
      obtain ⟨outcome, after⟩ := result
      cases outcome with
      | ok => exact inductionHypothesis handled
      | error failure => exact handled.of_stops (stops_of_error succeeds rfl) _ _

theorem accounts_run
    (accounts : loader.Accounts rejected inserts load)
    (source : List Segment) :
    loader.Accounts
      (rejected + (Reader.statements loader.config.chunkSize source).countP loader.rejects)
      (inserts + (Reader.statements loader.config.chunkSize source).countP Statement.isInsert)
      (loader.run source load).2 := by
  have handled :=
    accounts_handleAll accounts (Reader.ofSource loader.config.chunkSize source).items
  unfold run
  generalize loader.handleAll _ load = result at handled ⊢
  obtain ⟨outcome, after⟩ := result
  cases outcome with
  | ok => exact accounts_flush handled
  | error failure => exact handled

theorem accounts_serve
    (accounts : loader.Accounts rejected inserts load)
    (request : Request) :
    loader.Accounts
      (rejected + (request.statements loader.config.chunkSize).countP loader.rejects)
      (inserts + (request.statements loader.config.chunkSize).countP Statement.isInsert)
      (loader.serve request load).2 := by
  cases request with
  | handle statement =>
    simpa [serve, Request.statements, List.countP_cons] using accounts_handle accounts statement
  | flush => exact accounts_flush accounts
  | run source => exact accounts_run accounts source
  | runFile counted loaded =>
    simp only [serve, runCounted, Request.statements]
    cases Reader.countInserts loader.config.chunkSize counted with
    | error error => exact accounts
    | ok total => exact accounts_run (accounts.setTotal total) loaded

theorem accounts_serveAll
    (accounts : loader.Accounts rejected inserts load)
    (requests : List Request) :
    let statements := requests.flatMap (Request.statements loader.config.chunkSize)
    loader.Accounts (rejected + statements.countP loader.rejects)
      (inserts + statements.countP Statement.isInsert) (loader.serveAll requests load) := by
  induction requests generalizing load rejected inserts with
  | nil => exact accounts
  | cons request rest inductionHypothesis =>
    simp only [serveAll, List.flatMap_cons, List.countP_append, ← Nat.add_assoc]
    exact inductionHypothesis (accounts_serve accounts request)

/-- Whatever a new loader is asked and whatever its executor answers, the statements counted as
executed are those that the successful batches report and one for each successful prepared
statement.  A loader that stops at failures counts none as failed.  Otherwise it counts those of
failed batches, one for each failed prepared statement, and those it rejects; neither handling a
statement nor executing what waits fails; and if every successful batch is reported as executed as
a whole, each INSERT statement handled is executed, failed or waits. -/
theorem serveAll_counts (loader : Loader) (requests : List Request) :
    let load := loader.serveAll requests {}
    let statements := requests.flatMap (Request.statements loader.config.chunkSize)
    load.summary.executed = loader.executor.executedIn load.calls ∧
      (loader.config.continueOnError = false → load.summary.failed = 0) ∧
      (loader.config.continueOnError = true →
        load.summary.failed =
            loader.executor.failedIn load.calls + statements.countP loader.rejects ∧
          (∀ statement other, (loader.handle statement other).1 = .ok ()) ∧
          (∀ other, (loader.flush other).1 = .ok ()) ∧
          ((∀ batch count,
              (Call.batch batch, Answer.done count) ∈ loader.executor.answers load.calls →
                count = batch.length) →
            load.summary.executed + load.summary.failed + load.pending.length =
              statements.countP Statement.isInsert)) := by
  intro load statements
  have accounts : loader.Accounts (statements.countP loader.rejects)
      (statements.countP Statement.isInsert) load := by
    simpa using accounts_serveAll (.start loader) requests
  refine ⟨accounts.executed, accounts.stopped, ?_⟩
  intro goesOn
  refine ⟨accounts.failed goesOn, handle_of_goesOn goesOn, flush_of_goesOn goesOn, ?_⟩
  intro whole
  calc load.summary.executed + load.summary.failed + load.pending.length
      = loader.executor.executedIn load.calls + loader.executor.failedIn load.calls +
          statements.countP loader.rejects + load.pending.length := by
        rw [accounts.executed, accounts.failed goesOn, Nat.add_assoc _ (Executor.failedIn _ _)]
    _ = (load.calls.map Call.size).sum + statements.countP loader.rejects +
          load.pending.length := by
        rw [loader.executor.executedIn_add_failedIn load.calls whole]
    _ = statements.countP Statement.isInsert := accounts.passedOn goesOn

/-- Two loaders of which only the first batch succeeds: one goes on and one stops. -/
theorem serveAll_counts_of_failing :
    let executor : Executor := fun earlier call =>
      match call with
      | .batch texts => if earlier = [] then .done texts.length else .failed ['e']
      | .prepared _ => .done 1
    let config : Config := {
      batchSize := 2, ignoreKey := true, keyName := ['k'], continueOnError := true,
      largeText := { maxBytes := 3, maxChars := 3 } }
    let loader : Loader := { config, executor }
    let stopping : Loader := { config := { config with continueOnError := false }, executor }
    let script :=
      "INSERT INTO t (k, a) VALUES (2, 'y'); INSERT INTO t (k, a) VALUES (3, 'large')".toList
    let requests : List Request :=
      [.handle ⟨"INSERT INTO t (k, a) VALUES (1, 'x')".toList⟩, .flush,
        .handle ⟨"INSERT INTO t".toList⟩, .run [.bytes (Utf8.encode script)],
        .handle ⟨"INSERT INTO t (k, a) VALUES (4, 'z')".toList⟩]
    let load := loader.serveAll requests {}
    load.summary = { executed := 2, failed := 2 } ∧ load.pending.length = 1 ∧
      loader.executor.executedIn load.calls = 2 ∧
      (requests.flatMap (Request.statements loader.config.chunkSize)).countP
          Statement.isInsert = 5 ∧
      (loader.flush load).1 = .ok () ∧
      (stopping.serveAll requests {}).summary.failed = 0 := by
  intro executor config loader stopping script requests load
  have items : (Reader.ofSource loader.config.chunkSize [.bytes (Utf8.encode script)]).items =
      (Script.statements script).map .ok :=
    Reader.items_of_encoded _ _ script (by simp) (List.append_nil _)
  have evaluated : load.summary = { executed := 2, failed := 2 } ∧ load.pending.length = 1 ∧
      (loader.executor.answers load.calls).map (fun entry => (entry.1.size, entry.2)) =
        [(1, .done 1), (1, .failed ['e']), (1, .done 1)] := by
    simp only [load, requests, serveAll, serve, run, items]
    decide +kernel
  obtain ⟨summary, waiting, answers⟩ := evaluated
  have whole : ∀ batch count,
      (Call.batch batch, Answer.done count) ∈ loader.executor.answers load.calls →
        count = batch.length := by
    generalize loader.executor.answers load.calls = entries at answers
    intro batch count member
    have listed : (batch.length, Answer.done count) ∈
        entries.map fun entry => (entry.1.size, entry.2) :=
      List.mem_map_of_mem member
    rw [answers] at listed
    obtain ⟨size, reported⟩ : batch.length = 1 ∧ count = 1 := by simpa using listed
    rw [size, reported]
  obtain ⟨executed, -, counts⟩ := serveAll_counts loader requests
  obtain ⟨-, -, flushes, handled⟩ := counts rfl
  obtain ⟨-, stopped, -⟩ := serveAll_counts stopping requests
  refine ⟨summary, waiting, ?_, ?_, flushes load, stopped rfl⟩
  · rw [← executed, summary]
  · rw [← handled whole, summary, waiting]
    rfl

end Loader
end SqlDump
