import SqlDump.Proofs.LoadCounts

/-!
# What a loader asks for, whatever is answered

The settings, the texts that wait and the operations to be performed fix a plan: the calls that a
loader makes and what waits behind them.  The answers of the executor only decide how far the plan
is carried out: to its end if the settings ask to go on after failures, and otherwise up to the
first call that fails.
-/

namespace SqlDump

namespace Call

/-- The failure that ends a load when the call fails. -/
def failure : Call → Text → Failure
  | .batch statements, reason => .batch statements.length reason
  | .prepared _, reason => .executor reason

/-- The call that executes the texts that wait, if there are any. -/
def ofWaiting (waiting : List Text) : List Call :=
  if waiting = [] then [] else [.batch waiting]

end Call

namespace Executor

/-- None of some calls that follow earlier calls fails. -/
def Succeeds (executor : Executor) (earlier calls : List Call) : Prop :=
  ∀ call reason, (call, Answer.failed reason) ∉ executor.answersAfter earlier calls

@[simp] theorem succeeds_nil (executor : Executor) (earlier : List Call) :
    executor.Succeeds earlier [] := by
  simp [Succeeds, answersAfter]

theorem succeeds_append_iff (executor : Executor) (earlier calls later : List Call) :
    executor.Succeeds earlier (calls ++ later) ↔
      executor.Succeeds earlier calls ∧ executor.Succeeds (earlier ++ calls) later := by
  simp only [Succeeds, answersAfter_append, List.mem_append, not_or, forall_and]

theorem succeeds_of_done
    {executor : Executor}
    {earlier : List Call}
    {call : Call}
    {count : Nat}
    (done : executor earlier call = .done count) :
    executor.Succeeds earlier [call] := by
  simp [Succeeds, answersAfter, done]

/-- A load whose last call behind the earlier ones is the first that fails, with which it ends. -/
inductive StopsLoad (executor : Executor) (earlier : List Call) :
    Except Failure Unit × Load → Prop where
  | intro {load : Load} {made : List Call} {call : Call} {reason : Text}
      (calls : load.calls = earlier ++ (made ++ [call]))
      (succeeds : executor.Succeeds earlier made)
      (fails : executor (earlier ++ made) call = .failed reason) :
      StopsLoad executor earlier (.error (call.failure reason), load)

end Executor

namespace Reader

/-- The operations for what a reader hands out: the statements in front of the first error are
handled, and what waits is executed if there is no error. -/
def operationsOf : List (Except Error Statement) → List Operation
  | [] => [.flush]
  | .error _ :: _ => []
  | .ok statement :: rest => .handle statement :: operationsOf rest

/-- How a reader ends. -/
def endOf : List (Except Error Statement) → Except Failure Unit
  | [] => .ok ()
  | .error error :: _ => .error (.rejected error)
  | .ok _ :: rest => endOf rest

end Reader

/-- What a loader is going to do. -/
structure Plan where
  /-- The calls to be made. -/
  calls : List Call := []
  /-- The texts that wait behind them. -/
  waiting : List Text
  /-- How the loader ends unless a call fails. -/
  outcome : Except Failure Unit := .ok ()

namespace Plan

/-- Goes on with the texts that wait, unless the loader ends before. -/
def andThen (plan : Plan) (next : List Text → Plan) : Plan :=
  match plan.outcome with
  | .ok () => { next plan.waiting with calls := plan.calls ++ (next plan.waiting).calls }
  | .error _ => plan

/-- Executes the texts that wait. -/
def flush (waiting : List Text) : Plan :=
  { calls := Call.ofWaiting waiting, waiting := [] }

theorem andThen_of_ok
    {plan : Plan}
    (ok : plan.outcome = .ok ())
    (next : List Text → Plan) :
    plan.andThen next =
      { next plan.waiting with calls := plan.calls ++ (next plan.waiting).calls } := by
  rw [andThen, ok]

theorem andThen_of_error
    {plan : Plan}
    {failure : Failure}
    (failed : plan.outcome = .error failure)
    (next : List Text → Plan) :
    plan.andThen next = plan := by
  rw [andThen, failed]

theorem calls_prefix_andThen (plan : Plan) (next : List Text → Plan) :
    plan.calls <+: (plan.andThen next).calls := by
  cases ends : plan.outcome with
  | ok =>
    rw [andThen_of_ok ends]
    exact List.prefix_append _ _
  | error failure =>
    rewrite [andThen_of_error ends]
    exact List.prefix_refl _

end Plan

namespace Loader

/-- Goes on with a load, unless it has ended with a failure. -/
def andThen (result : Except Failure Unit × Load) (next : Load → Except Failure Unit × Load) :
    Except Failure Unit × Load :=
  match result with
  | (.ok (), load) => next load
  | (.error failure, load) => (.error failure, load)

/-- How a statement that cannot be passed on ends the load, if it does. -/
def refusal (loader : Loader) (error : Error) : Except Failure Unit :=
  if loader.config.continueOnError then .ok () else .error (.rejected error)

/-- Executes a text by itself, with its values bound to placeholders. -/
def planPrepared (loader : Loader) (text : Text) (waiting : List Text) : Plan :=
  match Insert.prepare loader.config.largeText text with
  | .ok insert => { calls := [.prepared insert], waiting }
  | .error error => { waiting, outcome := loader.refusal error }

/-- Passes on a text by itself behind all that wait, or as the last of a batch. -/
def planText (loader : Loader) (text : Text) (waiting : List Text) : Plan :=
  if loader.config.largeText.isExceededIn text then
    (Plan.flush waiting).andThen (loader.planPrepared text)
  else if loader.config.batchSize ≤ (waiting ++ [text]).length then Plan.flush (waiting ++ [text])
  else { waiting := waiting ++ [text] }

/-- What an operation comes to. -/
def plan (loader : Loader) : Operation → List Text → Plan
  | .handle statement, waiting =>
    if statement.isInsert then
      match loader.textOf statement with
      | .ok text => loader.planText text waiting
      | .error error => { waiting, outcome := loader.refusal error }
    else { waiting }
  | .flush, waiting => Plan.flush waiting

/-- What some operations come to. -/
def planAll (loader : Loader) : List Operation → List Text → Plan
  | [], waiting => { waiting }
  | operation :: rest, waiting => (loader.plan operation waiting).andThen (loader.planAll rest)

/-- What loading a source comes to. -/
def planRun (loader : Loader) (source : List Segment) (waiting : List Text) : Plan :=
  let items := (Reader.ofSource loader.config.chunkSize source).items
  (loader.planAll (Reader.operationsOf items) waiting).andThen fun waiting =>
    { waiting, outcome := Reader.endOf items }

/-- The executor has no part in planning. -/
theorem planAll_congr
    (config : Config)
    (executor other : Executor)
    (operations : List Operation) :
    planAll ⟨config, executor⟩ operations = planAll ⟨config, other⟩ operations := by
  induction operations with
  | nil => rfl
  | cons operation rest inductionHypothesis =>
    funext waiting
    rw [planAll, planAll, inductionHypothesis]
    rfl

/-! ## Carrying out a plan -/

/-- What a plan leads to: all its calls are made if none fails or the settings ask to go on;
otherwise those up to the first that fails, behind which nothing waits. -/
inductive CarriesOut (loader : Loader) (load : Load) (plan : Plan) :
    Except Failure Unit × Load → Prop where
  | completes {after : Load}
      (succeeds : loader.config.continueOnError = false →
        loader.executor.Succeeds load.calls plan.calls)
      (calls : after.calls = load.calls ++ plan.calls)
      (waiting : after.pending = plan.waiting)
      (total : after.summary.total = load.summary.total) :
      CarriesOut loader load plan (plan.outcome, after)
  | stops {after : Load} {made : List Call} {call : Call} {reason : Text}
      (stopping : loader.config.continueOnError = false)
      (planned : made ++ [call] <+: plan.calls)
      (succeeds : loader.executor.Succeeds load.calls made)
      (fails : loader.executor (load.calls ++ made) call = .failed reason)
      (calls : after.calls = load.calls ++ (made ++ [call]))
      (waiting : after.pending = [])
      (total : after.summary.total = load.summary.total) :
      CarriesOut loader load plan (.error (call.failure reason), after)

namespace CarriesOut

variable
  {loader : Loader}
  {load : Load}
  {plan : Plan}
  {result : Except Failure Unit × Load}

/-- Nothing is asked of the executor. -/
theorem of_calls
    {after : Load}
    (nothing : plan.calls = [])
    (calls : after.calls = load.calls)
    (waiting : after.pending = plan.waiting)
    (total : after.summary.total = load.summary.total) :
    loader.CarriesOut load plan (plan.outcome, after) := by
  refine .completes (fun _ => ?_) ?_ waiting total
  · rw [nothing]
    exact Executor.succeeds_nil _ _
  · rw [nothing, calls, List.append_nil]

/-- One call is made, behind which nothing waits. -/
theorem ask
    (load asked : Load)
    (call : Call)
    (calls : asked.calls = load.calls ++ [call])
    (waiting : asked.pending = [])
    (total : asked.summary.total = load.summary.total)
    (executed : Nat → Nat)
    (failed : Nat) :
    loader.CarriesOut load { calls := [call], waiting := [] }
      (match loader.executor load.calls call with
      | .done count => (.ok (), asked.addExecuted (executed count))
      | .failed reason => loader.fail (call.failure reason) failed asked) := by
  cases answered : loader.executor load.calls call with
  | done count => exact .completes (fun _ => Executor.succeeds_of_done answered) calls waiting total
  | failed reason =>
    cases goesOn : loader.config.continueOnError with
    | true =>
      simp only [fail, goesOn, if_true]
      refine .completes ?_ calls waiting total
      simp [goesOn]
    | false =>
      simp only [fail, goesOn, Bool.false_eq_true, if_false]
      refine .stops goesOn (List.prefix_refl ([] ++ [call])) (Executor.succeeds_nil _ _) ?_ calls
        waiting total
      rwa [List.append_nil]

/-- A plan may be carried out behind calls that were made without failures. -/
theorem behind
    {middle : Load}
    (later : loader.CarriesOut middle plan result)
    {calls : List Call}
    (succeeds : loader.config.continueOnError = false →
      loader.executor.Succeeds load.calls calls)
    (made : middle.calls = load.calls ++ calls)
    (total : middle.summary.total = load.summary.total) :
    loader.CarriesOut load { plan with calls := calls ++ plan.calls } result := by
  cases later with
  | completes succeedsLater madeLater waiting totalLater =>
    rw [made] at succeedsLater
    refine .completes ?_ ?_ waiting (totalLater.trans total)
    · intro stopping
      exact (Executor.succeeds_append_iff _ _ _ _).mpr
        ⟨succeeds stopping, succeedsLater stopping⟩
    · rw [madeLater, made, List.append_assoc]
  | @stops after madeLater call reason stopping planned succeedsLater fails callsLater waiting
      totalLater =>
    rw [made] at succeedsLater fails callsLater
    have plannedLater : (calls ++ madeLater) ++ [call] <+: calls ++ plan.calls := by
      rw [List.append_assoc]
      exact (List.prefix_append_right_inj calls).mpr planned
    refine .stops stopping plannedLater ?_ ?_ ?_ waiting (totalLater.trans total)
    · exact (Executor.succeeds_append_iff _ _ _ _).mpr ⟨succeeds stopping, succeedsLater⟩
    · rwa [← List.append_assoc]
    · rw [callsLater]
      simp

/-- One plan is carried out behind the other, unless the first ends with a failure. -/
theorem andThen
    (first : loader.CarriesOut load plan result)
    {nextPlan : List Text → Plan}
    {next : Load → Except Failure Unit × Load}
    (follows : ∀ middle, middle.pending = plan.waiting →
      loader.CarriesOut middle (nextPlan plan.waiting) (next middle)) :
    loader.CarriesOut load (plan.andThen nextPlan) (Loader.andThen result next) := by
  cases first with
  | @completes middle succeeds calls waiting total =>
    cases ends : plan.outcome with
    | ok =>
      rw [Plan.andThen_of_ok ends]
      exact (follows middle waiting).behind succeeds calls total
    | error failure =>
      rw [Plan.andThen_of_error ends]
      have carried : loader.CarriesOut load plan (plan.outcome, middle) :=
        .completes succeeds calls waiting total
      rw [ends] at carried
      exact carried
  | stops stopping planned succeeds fails calls waiting total =>
    exact .stops stopping (planned.trans (plan.calls_prefix_andThen nextPlan)) succeeds fails calls
      waiting total

/-- The calls made are the first of the plan. -/
theorem exists_made (carried : loader.CarriesOut load plan result) :
    ∃ made, made <+: plan.calls ∧ result.2.calls = load.calls ++ made := by
  cases carried with
  | completes succeeds calls waiting total => exact ⟨plan.calls, List.prefix_refl _, calls⟩
  | stops stopping planned succeeds fails calls waiting total => exact ⟨_, planned, calls⟩

theorem isPrefix_calls (carried : loader.CarriesOut load plan result) :
    result.2.calls <+: load.calls ++ plan.calls := by
  obtain ⟨made, planned, calls⟩ := carried.exists_made
  rw [calls]
  exact (List.prefix_append_right_inj load.calls).mpr planned

/-- A loader that goes on after failures makes all calls. -/
theorem calls_of_goesOn
    (carried : loader.CarriesOut load plan result)
    (goesOn : loader.config.continueOnError = true) :
    result.2.calls = load.calls ++ plan.calls := by
  cases carried with
  | completes succeeds calls waiting total => exact calls
  | stops stopping planned succeeds fails calls waiting total =>
    exact absurd (stopping.symm.trans goesOn) Bool.false_ne_true

/-- If not all calls are made, the last one made is the first that fails. -/
theorem stopsLoad
    (carried : loader.CarriesOut load plan result)
    (fewer : result.2.calls.length < (load.calls ++ plan.calls).length) :
    loader.executor.StopsLoad load.calls result := by
  cases carried with
  | completes succeeds calls waiting total =>
    rw [calls] at fewer
    exact absurd fewer (Nat.lt_irrefl _)
  | stops stopping planned succeeds fails calls waiting total =>
    exact .intro calls succeeds fails

theorem total (carried : loader.CarriesOut load plan result) :
    result.2.summary.total = load.summary.total := by
  cases carried with
  | completes succeeds calls waiting total => exact total
  | stops stopping planned succeeds fails calls waiting total => exact total

/-- Nothing waits behind a call that ends a load. -/
theorem pending (carried : loader.CarriesOut load plan result) :
    result.2.pending = plan.waiting ∨ result.2.pending = [] := by
  cases carried with
  | completes succeeds calls waiting total => exact .inl waiting
  | stops stopping planned succeeds fails calls waiting total => exact .inr waiting

end CarriesOut

variable {loader : Loader} {load : Load}

theorem carriesOut_fail (loader : Loader) (error : Error) (load : Load) :
    loader.CarriesOut load { waiting := load.pending, outcome := loader.refusal error }
      (loader.fail (.rejected error) 1 load) := by
  cases goesOn : loader.config.continueOnError with
  | true =>
    simp only [fail, refusal, goesOn, if_true]
    exact .of_calls rfl rfl rfl rfl
  | false =>
    simp only [fail, refusal, goesOn, Bool.false_eq_true, if_false]
    exact .of_calls rfl rfl rfl rfl

theorem carriesOut_flush (loader : Loader) (load : Load) :
    loader.CarriesOut load (.flush load.pending) (loader.flush load) := by
  unfold flush Plan.flush Call.ofWaiting
  split_ifs with empty
  · exact .of_calls rfl rfl empty rfl
  · exact .ask load ({ load with pending := [] }.noteCall (.batch load.pending))
      (.batch load.pending) rfl rfl rfl id load.pending.length

theorem carriesOut_executePrepared
    (loader : Loader)
    (empty : load.pending = [])
    (text : Text) :
    loader.CarriesOut load (loader.planPrepared text load.pending)
      (loader.executePrepared text load) := by
  unfold executePrepared planPrepared
  cases Insert.prepare loader.config.largeText text with
  | error error => exact carriesOut_fail loader error load
  | ok prepared =>
    rw [empty]
    exact .ask load (load.noteCall (.prepared prepared)) (.prepared prepared) rfl empty rfl
      (fun _ => 1) 1

theorem carriesOut_submit (loader : Loader) (text : Text) (load : Load) :
    loader.CarriesOut load (loader.planText text load.pending) (loader.submit text load) := by
  cases large : loader.config.largeText.isExceededIn text with
  | true =>
    simp only [submit, planText, large, if_true]
    refine (carriesOut_flush loader load).andThen ?_
    intro flushed empty
    have prepared := carriesOut_executePrepared loader empty text
    rwa [empty] at prepared
  | false =>
    simp only [submit, planText, large, Bool.false_eq_true, if_false]
    split_ifs with full
    · exact (carriesOut_flush loader { load with pending := load.pending ++ [text] }).behind
        (fun _ => Executor.succeeds_nil _ _) (List.append_nil _).symm rfl
    · exact .of_calls rfl rfl rfl rfl

/-- Whatever the executor answers, an operation carries out what it comes to. -/
theorem carriesOut_perform (loader : Loader) (operation : Operation) (load : Load) :
    loader.CarriesOut load (loader.plan operation load.pending) (loader.perform operation load) := by
  cases operation with
  | flush => exact carriesOut_flush loader load
  | handle statement =>
    simp only [perform, handle, plan]
    split_ifs with insert
    · cases loader.textOf statement with
      | ok text => exact carriesOut_submit loader text load
      | error error => exact carriesOut_fail loader error load
    · exact .of_calls rfl rfl rfl rfl

theorem performAll_cons (operation : Operation) (rest : List Operation) (load : Load) :
    loader.performAll (operation :: rest) load =
      andThen (loader.perform operation load) (loader.performAll rest) := rfl

theorem carriesOut_performAll (loader : Loader) (operations : List Operation) (load : Load) :
    loader.CarriesOut load (loader.planAll operations load.pending)
      (loader.performAll operations load) := by
  induction operations generalizing load with
  | nil => exact .of_calls rfl rfl rfl rfl
  | cons operation rest inductionHypothesis =>
    rw [performAll_cons, planAll]
    refine (carriesOut_perform loader operation load).andThen ?_
    intro performed waiting
    rw [← waiting]
    exact inductionHypothesis performed

/-- Loading a source is to perform the operations for what is read of it. -/
theorem run_eq_performAll (loader : Loader) (source : List Segment) (load : Load) :
    let items := (Reader.ofSource loader.config.chunkSize source).items
    loader.run source load =
      andThen (loader.performAll (Reader.operationsOf items) load) fun after =>
        (Reader.endOf items, after) := by
  intro items
  change andThen (loader.handleAll items load) loader.flush = _
  induction items generalizing load with
  | nil =>
    rw [Reader.operationsOf, performAll_cons]
    change loader.flush load = andThen (andThen (loader.flush load) _) _
    generalize loader.flush load = result
    obtain ⟨outcome, after⟩ := result
    cases outcome <;> rfl
  | cons item rest inductionHypothesis =>
    cases item with
    | error error => rfl
    | ok statement =>
      rw [Reader.operationsOf, performAll_cons, handleAll]
      change _ = andThen (andThen (loader.handle statement load) _) _
      generalize loader.handle statement load = result
      obtain ⟨outcome, after⟩ := result
      cases outcome with
      | ok => exact inductionHypothesis after
      | error failure => rfl

theorem carriesOut_run (loader : Loader) (source : List Segment) (load : Load) :
    loader.CarriesOut load (loader.planRun source load.pending) (loader.run source load) := by
  rw [run_eq_performAll, planRun]
  refine (carriesOut_performAll loader _ load).andThen ?_
  intro after waiting
  exact .of_calls rfl rfl waiting rfl

/-- Of two runs that differ in the executor only, both make the same calls if the settings ask to
go on after failures.  Otherwise the calls of one are the first of the other, and a run with fewer
calls than the other has ended with the failure of its last call, the first of its calls that
failed. -/
theorem run_calls_agree
    (config : Config)
    (executor other : Executor)
    (source : List Segment)
    (load : Load) :
    let result := Loader.run ⟨config, executor⟩ source load
    let otherResult := Loader.run ⟨config, other⟩ source load
    (config.continueOnError = true → result.2.calls = otherResult.2.calls) ∧
      (config.continueOnError = false →
        (result.2.calls <+: otherResult.2.calls ∨ otherResult.2.calls <+: result.2.calls) ∧
          (result.2.calls.length < otherResult.2.calls.length →
            executor.StopsLoad load.calls result) ∧
          (otherResult.2.calls.length < result.2.calls.length →
            other.StopsLoad load.calls otherResult)) := by
  intro result otherResult
  have carried := carriesOut_run ⟨config, executor⟩ source load
  have otherCarried := carriesOut_run ⟨config, other⟩ source load
  have samePlan : planRun ⟨config, executor⟩ source = planRun ⟨config, other⟩ source := by
    funext waiting
    rw [planRun, planRun, planAll_congr config executor other]
  rw [samePlan] at carried
  refine ⟨?_, fun _ => ⟨?_, ?_, ?_⟩⟩
  · intro goesOn
    exact (carried.calls_of_goesOn goesOn).trans (otherCarried.calls_of_goesOn goesOn).symm
  · exact List.prefix_or_prefix_of_prefix carried.isPrefix_calls otherCarried.isPrefix_calls
  · intro fewer
    exact carried.stopsLoad (Nat.lt_of_lt_of_le fewer otherCarried.isPrefix_calls.length_le)
  · intro fewer
    exact otherCarried.stopsLoad (Nat.lt_of_lt_of_le fewer carried.isPrefix_calls.length_le)

/-- Three batches, the second of which one executor fails on. -/
theorem run_calls_agree_of_failing :
    let script := ("INSERT INTO t VALUES (1); INSERT INTO t VALUES (2);" ++
      "INSERT INTO t VALUES (3)").toList
    let source : List Segment := [.bytes (Utf8.encode script)]
    let executor : Executor := fun earlier _ =>
      if earlier.length = 1 then .failed ['e'] else .done 1
    let other : Executor := fun _ _ => .done 1
    let stopping : Config := { batchSize := 1 }
    let going : Config := { batchSize := 1, continueOnError := true }
    (Loader.run ⟨stopping, executor⟩ source {}).2.calls.length = 2 ∧
      (Loader.run ⟨stopping, other⟩ source {}).2.calls.length = 3 ∧
      executor.StopsLoad [] (Loader.run ⟨stopping, executor⟩ source {}) ∧
      (Loader.run ⟨going, executor⟩ source {}).2.calls =
        (Loader.run ⟨going, other⟩ source {}).2.calls := by
  intro script source executor other stopping going
  have items : (Reader.ofSource stopping.chunkSize source).items =
      (Script.statements script).map .ok :=
    Reader.items_of_encoded _ _ script (by simp [source]) (List.append_nil _)
  have lengths : (Loader.run ⟨stopping, executor⟩ source {}).2.calls.length = 2 ∧
      (Loader.run ⟨stopping, other⟩ source {}).2.calls.length = 3 := by
    simp only [run, items]
    decide +kernel
  obtain ⟨fewer, more⟩ := lengths
  obtain ⟨-, stopped⟩ := run_calls_agree stopping executor other source {}
  obtain ⟨-, stops, -⟩ := stopped rfl
  refine ⟨fewer, more, stops ?_, ?_⟩
  · rw [fewer, more]
    exact Nat.lt_succ_self 2
  · exact (run_calls_agree going executor other source {}).1 rfl

end Loader
end SqlDump
