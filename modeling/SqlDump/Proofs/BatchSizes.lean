import SqlDump.Proofs.LoadPlan

/-!
# How full the batches of a loader are

Fewer texts wait than make up a batch.  A batch that is not full is executed only when that is
asked for, at the end of a source, or in front of a text with an oversized string, which is
executed by itself and never while other texts wait.
-/

namespace SqlDump

/-! ## Items of lists -/

section

variable {Item : Type}

theorem split_of_singleton_eq
    {first item : Item}
    {earlier later : List Item}
    (whole : [first] = earlier ++ item :: later) :
    earlier = [] ∧ item = first ∧ later = [] := by
  rcases List.append_eq_singleton_iff.mp whole.symm with ⟨none, last⟩ | ⟨-, none⟩
  · exact ⟨none, (List.cons.inj last).1, (List.cons.inj last).2⟩
  · cases none

/-- An item of two lists in a row is one of the first or of the second. -/
theorem split_of_append_eq
    {front back earlier later : List Item}
    {item : Item}
    (whole : front ++ back = earlier ++ item :: later) :
    (∃ middle, front = earlier ++ item :: middle) ∨
      ∃ middle, earlier = front ++ middle ∧ back = middle ++ item :: later := by
  rcases List.append_eq_append_iff.mp whole with
    ⟨middle, earlierSplit, backSplit⟩ | ⟨middle, frontSplit, laterSplit⟩
  · exact .inr ⟨middle, earlierSplit, backSplit⟩
  · cases middle with
    | nil =>
      rw [List.append_nil] at frontSplit
      exact .inr ⟨[], by rw [frontSplit, List.append_nil], laterSplit.symm⟩
    | cons first middle =>
      obtain ⟨rfl, -⟩ := List.cons.inj laterSplit
      exact .inl ⟨middle, frontSplit⟩

end

/-! ## The operations of a request -/

namespace Reader

/-- What waits is executed behind all statements. -/
theorem eq_nil_of_operationsOf_eq
    {items : List (Except Error Statement)}
    {done rest : List Operation}
    (split : operationsOf items = done ++ .flush :: rest) :
    rest = [] := by
  induction items generalizing done with
  | nil =>
    obtain ⟨-, -, last⟩ := split_of_singleton_eq split
    exact last
  | cons item later inductionHypothesis =>
    cases item with
    | error error => simp [operationsOf] at split
    | ok statement =>
      cases done with
      | nil => simp [operationsOf] at split
      | cons first done => exact inductionHypothesis (List.cons.inj split).2

end Reader

namespace Request

/-- The operations that a request comes to. -/
def operations (chunkSize : Nat) : Request → List Operation
  | .handle statement => [.handle statement]
  | .flush => [.flush]
  | .run source => Reader.operationsOf (Reader.ofSource chunkSize source).items
  | .runFile counted loaded =>
    match Reader.countInserts chunkSize counted with
    | .error _ => []
    | .ok _ => Reader.operationsOf (Reader.ofSource chunkSize loaded).items

/-- The load with which the operations of a request start: loading a file notes its number of
INSERT statements before. -/
def start (chunkSize : Nat) (load : Load) : Request → Load
  | .handle _ | .flush | .run _ => load
  | .runFile counted _ =>
    match Reader.countInserts chunkSize counted with
    | .error _ => load
    | .ok total => { load with summary := { load.summary with total } }

/-- Noting a number changes no calls and no texts that wait. -/
theorem start_load (chunkSize : Nat) (load : Load) (request : Request) :
    (request.start chunkSize load).calls = load.calls ∧
      (request.start chunkSize load).pending = load.pending := by
  cases request with
  | handle statement => exact ⟨rfl, rfl⟩
  | flush => exact ⟨rfl, rfl⟩
  | run source => exact ⟨rfl, rfl⟩
  | runFile counted loaded =>
    rw [start]
    cases Reader.countInserts chunkSize counted with
    | error error => exact ⟨rfl, rfl⟩
    | ok total => exact ⟨rfl, rfl⟩

theorem eq_nil_of_operations_eq
    {chunkSize : Nat}
    {request : Request}
    {done rest : List Operation}
    (split : request.operations chunkSize = done ++ .flush :: rest) :
    rest = [] := by
  cases request with
  | handle statement =>
    obtain ⟨-, -, last⟩ := split_of_singleton_eq split
    exact last
  | flush =>
    obtain ⟨-, -, last⟩ := split_of_singleton_eq split
    exact last
  | run source => exact Reader.eq_nil_of_operationsOf_eq split
  | runFile counted loaded =>
    rw [operations] at split
    cases counts : Reader.countInserts chunkSize counted with
    | error error => simp [counts] at split
    | ok total =>
      rw [counts] at split
      exact Reader.eq_nil_of_operationsOf_eq split

end Request

namespace Loader

theorem andThen_load (result : Except Failure Unit × Load) (outcome : Except Failure Unit) :
    (andThen result fun after => (outcome, after)).2 = result.2 := by
  obtain ⟨first, after⟩ := result
  cases first <;> rfl

/-- To serve a request is to perform its operations, up to the first that fails. -/
theorem serve_load (loader : Loader) (request : Request) (load : Load) :
    (loader.serve request load).2 =
      (loader.performAll (request.operations loader.config.chunkSize)
        (request.start loader.config.chunkSize load)).2 := by
  cases request with
  | handle statement => exact (andThen_load _ (.ok ())).symm
  | flush => exact (andThen_load _ (.ok ())).symm
  | run source =>
    rw [serve, run_eq_performAll, andThen_load]
    rfl
  | runFile counted loaded =>
    rw [serve, runCounted, Request.operations, Request.start]
    cases Reader.countInserts loader.config.chunkSize counted with
    | error error => rfl
    | ok total =>
      dsimp only
      rw [run_eq_performAll, andThen_load]

/-- Serving a request only adds calls. -/
theorem exists_made_serve (loader : Loader) (request : Request) (load : Load) :
    ∃ made, (loader.serve request load).2.calls = load.calls ++ made := by
  obtain ⟨made, -, calls⟩ := (carriesOut_performAll loader
    (request.operations loader.config.chunkSize)
    (request.start loader.config.chunkSize load)).exists_made
  rw [← serve_load, (request.start_load loader.config.chunkSize load).1] at calls
  exact ⟨made, calls⟩

/-! ## Occasions of calls -/

/-- Why an operation makes a call behind those it has made before, when some texts wait. -/
inductive Occasion (loader : Loader) (waiting : List Text) :
    Operation → List Call → Call → Prop where
  /-- Another text makes a batch full. -/
  | fills {statement : Statement} {text : Text}
      (text? : loader.textOf statement = .ok text)
      (full : loader.config.batchSize ≤ waiting.length + 1) :
      Occasion loader waiting (.handle statement) [] (.batch (waiting ++ [text]))
  /-- What waits is executed in front of a text with an oversized string. -/
  | clears {statement : Statement} {text : Text}
      (text? : loader.textOf statement = .ok text)
      (large : loader.config.largeText.isExceededIn text = true)
      (some : waiting ≠ []) :
      Occasion loader waiting (.handle statement) [] (.batch waiting)
  /-- A text with an oversized string is executed by itself. -/
  | prepares {statement : Statement} {text : Text} {insert : PreparedInsert}
      (text? : loader.textOf statement = .ok text)
      (large : loader.config.largeText.isExceededIn text = true)
      (prepares : Insert.prepare loader.config.largeText text = .ok insert) :
      Occasion loader waiting (.handle statement) (Call.ofWaiting waiting) (.prepared insert)
  /-- It is asked for. -/
  | asked (some : waiting ≠ []) : Occasion loader waiting .flush [] (.batch waiting)

theorem eq_batch_of_ofWaiting
    {waiting : List Text}
    {earlier later : List Call}
    {call : Call}
    (split : Call.ofWaiting waiting = earlier ++ call :: later) :
    waiting ≠ [] ∧ earlier = [] ∧ call = .batch waiting := by
  unfold Call.ofWaiting at split
  split_ifs at split with empty
  · simp at split
  · obtain ⟨first, batch, -⟩ := split_of_singleton_eq split
    exact ⟨empty, first, batch⟩

variable {loader : Loader} {waiting : List Text}

theorem occasion_of_planText
    {statement : Statement}
    {text : Text}
    (text? : loader.textOf statement = .ok text)
    {earlier later : List Call}
    {call : Call}
    (split : (loader.planText text waiting).calls = earlier ++ call :: later) :
    loader.Occasion waiting (.handle statement) earlier call := by
  unfold planText at split
  split_ifs at split with large full
  · rw [Plan.andThen_of_ok rfl] at split
    rcases split_of_append_eq split with ⟨middle, cleared⟩ | ⟨middle, behind, alone⟩
    · obtain ⟨some, rfl, rfl⟩ := eq_batch_of_ofWaiting cleared
      exact .clears text? large some
    · unfold planPrepared at alone
      split at alone
      · rename_i insert prepares
        obtain ⟨rfl, rfl, -⟩ := split_of_singleton_eq alone
        rw [behind, List.append_nil]
        exact .prepares text? large prepares
      · simp at alone
  · obtain ⟨-, rfl, rfl⟩ := eq_batch_of_ofWaiting split
    exact .fills text? (by simpa using full)
  · simp at split

/-- Each call that an operation comes to has its occasion. -/
theorem occasion_of_plan
    {operation : Operation}
    {earlier later : List Call}
    {call : Call}
    (split : (loader.plan operation waiting).calls = earlier ++ call :: later) :
    loader.Occasion waiting operation earlier call := by
  cases operation with
  | flush =>
    obtain ⟨some, rfl, rfl⟩ := eq_batch_of_ofWaiting split
    exact .asked some
  | handle statement =>
    rw [plan] at split
    split_ifs at split with insert
    · cases text? : loader.textOf statement with
      | ok text =>
        rw [text?] at split
        exact occasion_of_planText text? split
      | error error => simp [text?] at split
    · simp at split

/-- Fewer texts wait behind an operation than make up a batch. -/
theorem length_waiting_plan
    (fits : waiting.length < max loader.config.batchSize 1)
    (operation : Operation) :
    (loader.plan operation waiting).waiting.length < max loader.config.batchSize 1 := by
  have none : ([] : List Text).length < max loader.config.batchSize 1 := Nat.zero_lt_of_lt fits
  cases operation with
  | flush => exact none
  | handle statement =>
    rw [plan]
    split_ifs with insert
    · cases loader.textOf statement with
      | error error => exact fits
      | ok text =>
        dsimp only
        unfold planText
        split_ifs with large full
        · rw [Plan.andThen_of_ok rfl, planPrepared]
          cases Insert.prepare loader.config.largeText text <;> exact none
        · exact none
        · exact Nat.lt_of_lt_of_le (Nat.lt_of_not_le full) (Nat.le_max_left _ _)
    · exact fits

/-- Every batch holds a text at least, and no more than make up a batch. -/
theorem Occasion.length_batch
    {operation : Operation}
    {earlier : List Call}
    {batch : List Text}
    (occasion : loader.Occasion waiting operation earlier (.batch batch))
    (fits : waiting.length < max loader.config.batchSize 1) :
    1 ≤ batch.length ∧ batch.length ≤ max loader.config.batchSize 1 := by
  cases occasion with
  | fills text? full =>
    rw [List.length_append]
    exact ⟨Nat.le_add_left _ _, fits⟩
  | clears text? large some => exact ⟨List.length_pos_iff.mpr some, Nat.le_of_lt fits⟩
  | asked some => exact ⟨List.length_pos_iff.mpr some, Nat.le_of_lt fits⟩

/-- A batch that is not full is executed because that is asked for, or in front of a text with an
oversized string. -/
theorem Occasion.of_length_lt
    {operation : Operation}
    {earlier : List Call}
    {batch : List Text}
    (occasion : loader.Occasion waiting operation earlier (.batch batch))
    (short : batch.length < max loader.config.batchSize 1) :
    operation = .flush ∨
      ∃ statement text, operation = .handle statement ∧ loader.textOf statement = .ok text ∧
        loader.config.largeText.isExceededIn text = true := by
  cases occasion with
  | fills text? full =>
    rw [List.length_append, List.length_singleton] at short
    omega
  | clears text? large some => exact .inr ⟨_, _, rfl, text?, large⟩
  | asked some => exact .inl rfl

theorem Occasion.earlier_of_prepared
    {operation : Operation}
    {earlier : List Call}
    {insert : PreparedInsert}
    (occasion : loader.Occasion waiting operation earlier (.prepared insert)) :
    earlier = Call.ofWaiting waiting := by
  cases occasion with
  | prepares text? large prepares => rfl

/-! ## Sequences of operations and requests -/

variable {load : Load}

theorem length_pending_perform
    (fits : load.pending.length < max loader.config.batchSize 1)
    (operation : Operation) :
    (loader.perform operation load).2.pending.length < max loader.config.batchSize 1 := by
  rcases (carriesOut_perform loader operation load).pending with waiting | nothing
  · rw [waiting]
    exact length_waiting_plan fits operation
  · rw [nothing]
    exact Nat.zero_lt_of_lt fits

theorem length_pending_performAll
    (fits : load.pending.length < max loader.config.batchSize 1)
    (operations : List Operation) :
    (loader.performAll operations load).2.pending.length < max loader.config.batchSize 1 := by
  induction operations generalizing load with
  | nil => exact fits
  | cons operation rest inductionHypothesis =>
    have performed := length_pending_perform fits operation
    rw [performAll_cons]
    generalize loader.perform operation load = result at performed
    obtain ⟨outcome, after⟩ := result
    cases outcome with
    | ok => exact inductionHypothesis performed
    | error failure => exact performed

/-- Each call is made by the first operation or, if that ends without a failure, by a later one. -/
theorem split_of_performAll_cons
    {operation : Operation}
    {rest : List Operation}
    {earlier later : List Call}
    {call : Call}
    (split : (loader.performAll (operation :: rest) load).2.calls =
      load.calls ++ (earlier ++ call :: later)) :
    ∃ made, made <+: (loader.plan operation load.pending).calls ∧
      (loader.perform operation load).2.calls = load.calls ++ made ∧
      ((∃ middle, made = earlier ++ call :: middle) ∨
        ∃ after middle, loader.perform operation load = (.ok (), after) ∧
          earlier = made ++ middle ∧
          (loader.performAll rest after).2.calls = after.calls ++ (middle ++ call :: later)) := by
  obtain ⟨made, planned, calls⟩ := (carriesOut_perform loader operation load).exists_made
  refine ⟨made, planned, calls, ?_⟩
  rw [performAll_cons] at split
  generalize loader.perform operation load = result at calls split ⊢
  obtain ⟨outcome, after⟩ := result
  cases outcome with
  | error failure => exact .inl ⟨later, List.append_cancel_left (calls.symm.trans split)⟩
  | ok =>
    obtain ⟨madeLater, -, callsLater⟩ := (carriesOut_performAll loader rest after).exists_made
    have whole : made ++ madeLater = earlier ++ call :: later := by
      have both := callsLater.symm.trans split
      rw [calls, List.append_assoc] at both
      exact List.append_cancel_left both
    rcases split_of_append_eq whole with here | ⟨middle, behind, found⟩
    · exact .inl here
    · rw [found] at callsLater
      exact .inr ⟨after, middle, rfl, behind, callsLater⟩

/-- Each call is made by one of the operations, which finds fewer texts waiting than make up a
batch and has its occasion. -/
theorem exists_occasion
    (fits : load.pending.length < max loader.config.batchSize 1)
    {operations : List Operation}
    {earlier later : List Call}
    {call : Call}
    (split : (loader.performAll operations load).2.calls =
      load.calls ++ (earlier ++ call :: later)) :
    ∃ done operation rest before within,
      operations = done ++ operation :: rest ∧
        loader.performAll done load = (.ok (), before) ∧
        before.pending.length < max loader.config.batchSize 1 ∧
        load.calls ++ earlier = before.calls ++ within ∧
        load.calls ++ earlier ++ [call] <+: (loader.perform operation before).2.calls ∧
        loader.Occasion before.pending operation within call := by
  induction operations generalizing load earlier with
  | nil => simp [performAll] at split
  | cons operation rest inductionHypothesis =>
    obtain ⟨made, ⟨unmade, planned⟩, calls, ⟨middle, found⟩ | ⟨after, middle, performed, behind,
      callsLater⟩⟩ := split_of_performAll_cons split
    · refine ⟨[], operation, rest, load, earlier, rfl, rfl, fits, rfl, ?_, ?_⟩
      · rw [calls, found]
        exact ⟨middle, by simp⟩
      · rw [found, List.append_assoc] at planned
        exact occasion_of_plan planned.symm
    · have fitsLater := length_pending_perform fits operation
      rw [performed] at calls fitsLater
      obtain ⟨done, other, remaining, before, within, operations, first, fitsThen, position,
        reached, occasion⟩ := inductionHypothesis fitsLater callsLater
      have sameEarlier : after.calls ++ middle = load.calls ++ earlier := by
        rw [calls, behind, List.append_assoc]
      rw [sameEarlier] at position reached
      refine ⟨operation :: done, other, remaining, before, within, by rw [operations]; rfl, ?_,
        fitsThen, position, reached, occasion⟩
      rw [performAll_cons, performed]
      exact first

/-- While a request is served, an operation makes a call behind the earlier ones.  The operations
in front of it have been performed without a failure, and others may come behind it. -/
structure Makes
    (loader : Loader)
    (request : Request)
    (load : Load)
    (earlier : List Call)
    (call : Call)
    (operation : Operation)
    (rest : List Operation)
    (before : Load) : Prop where
  performed : ∃ done,
    request.operations loader.config.chunkSize = done ++ operation :: rest ∧
      loader.performAll done (request.start loader.config.chunkSize load) = (.ok (), before)
  starts : before.calls <+: earlier
  reaches : earlier ++ [call] <+: (loader.perform operation before).2.calls

/-- Fewer texts wait than make up a batch, and no batch is empty or more than full. -/
structure Bounded (loader : Loader) (load : Load) : Prop where
  waiting : load.pending.length < max loader.config.batchSize 1
  batches : ∀ batch, Call.batch batch ∈ load.calls →
    1 ≤ batch.length ∧ batch.length ≤ max loader.config.batchSize 1

/-- Each call made for a request is made by one of its operations. -/
theorem Bounded.exists_makes
    (bounded : loader.Bounded load)
    {request : Request}
    {earlier later : List Call}
    {call : Call}
    (split : (loader.serve request load).2.calls = load.calls ++ (earlier ++ call :: later)) :
    ∃ operation rest before within,
      loader.Makes request load (load.calls ++ earlier) call operation rest before ∧
        before.pending.length < max loader.config.batchSize 1 ∧
        load.calls ++ earlier = before.calls ++ within ∧
        loader.Occasion before.pending operation within call := by
  obtain ⟨sameCalls, samePending⟩ := request.start_load loader.config.chunkSize load
  rw [serve_load, ← sameCalls] at split
  obtain ⟨done, operation, rest, before, within, operations, performed, fits, position, reached,
    occasion⟩ := exists_occasion (samePending ▸ bounded.waiting) split
  rw [sameCalls] at position reached
  refine ⟨operation, rest, before, within, ⟨⟨done, operations, performed⟩, ?_, reached⟩, fits,
    position, occasion⟩
  exact ⟨within, position.symm⟩

theorem bounded_serve (bounded : loader.Bounded load) (request : Request) :
    loader.Bounded (loader.serve request load).2 where
  waiting := by
    rw [serve_load]
    refine length_pending_performAll ?_ _
    rw [(request.start_load loader.config.chunkSize load).2]
    exact bounded.waiting
  batches := by
    intro batch member
    obtain ⟨made, calls⟩ := exists_made_serve loader request load
    rw [calls] at member
    rcases List.mem_append.mp member with old | new
    · exact bounded.batches batch old
    · obtain ⟨earlier, later, rfl⟩ := List.append_of_mem new
      obtain ⟨operation, rest, before, within, -, fits, -, occasion⟩ := bounded.exists_makes calls
      exact occasion.length_batch fits

theorem bounded_serveAll (bounded : loader.Bounded load) (requests : List Request) :
    loader.Bounded (loader.serveAll requests load) := by
  induction requests generalizing load with
  | nil => exact bounded
  | cons request rest inductionHypothesis => exact inductionHypothesis (bounded_serve bounded request)

/-- Whatever a new loader is asked and whatever its executor answers, fewer texts wait than make up
a batch, and every batch holds a text at least and no more than make up a batch.  Each call made
for a further request is made by one of its operations: if it is a batch that is not full, by the
last one, which is to execute what waits, or by the handling of a statement with an oversized
string; if it is a prepared statement, behind the calls made before its statement came and the
batch of all texts that waited then. -/
theorem serveAll_batches (loader : Loader) (requests : List Request) :
    let limit := max loader.config.batchSize 1
    let load := loader.serveAll requests {}
    load.pending.length < limit ∧
      (∀ batch, Call.batch batch ∈ load.calls → 1 ≤ batch.length ∧ batch.length ≤ limit) ∧
      ∀ request, ∃ made, (loader.serve request load).2.calls = load.calls ++ made ∧
        ∀ earlier call later, made = earlier ++ call :: later →
          ∃ operation rest before,
            loader.Makes request load (load.calls ++ earlier) call operation rest before ∧
              (∀ batch, call = .batch batch → batch.length < limit →
                operation = .flush ∧ rest = [] ∨
                  ∃ statement text, operation = .handle statement ∧
                    loader.textOf statement = .ok text ∧
                    loader.config.largeText.isExceededIn text = true) ∧
              ∀ insert, call = .prepared insert →
                load.calls ++ earlier = before.calls ++ Call.ofWaiting before.pending := by
  intro limit load
  have start : loader.Bounded {} := by
    refine ⟨?_, by simp⟩
    exact Nat.lt_of_lt_of_le Nat.zero_lt_one (Nat.le_max_right _ _)
  have bounded : loader.Bounded load := bounded_serveAll start requests
  refine ⟨bounded.waiting, bounded.batches, ?_⟩
  intro request
  obtain ⟨made, calls⟩ := exists_made_serve loader request load
  refine ⟨made, calls, ?_⟩
  rintro earlier call later rfl
  obtain ⟨operation, rest, before, within, makes, -, position, occasion⟩ :=
    bounded.exists_makes calls
  refine ⟨operation, rest, before, makes, ?_, ?_⟩
  · rintro batch rfl short
    rcases occasion.of_length_lt short with rfl | large
    · obtain ⟨done, operations, -⟩ := makes.performed
      exact .inl ⟨rfl, Request.eq_nil_of_operations_eq operations⟩
    · exact .inr large
  · rintro insert rfl
    rw [position, occasion.earlier_of_prepared]

/-- A full batch, and one that is executed in front of a large string, although all batches
fail. -/
theorem serveAll_batches_of_failing :
    let loader : Loader := {
      config := { batchSize := 2, continueOnError := true,
                  largeText := { maxBytes := 3, maxChars := 3 } }
      executor := fun _ call =>
        match call with
        | .batch _ => .failed ['e']
        | .prepared _ => .done 1 }
    let small : Text := "INSERT INTO t VALUES (1)".toList
    let large : Text := "INSERT INTO t VALUES ('large')".toList
    let insert : PreparedInsert := {
      statement := "INSERT INTO t VALUES (?)".toList
      bindings := [.largeText "large".toList] }
    let request : Request := .handle ⟨large⟩
    let load := loader.serveAll [.handle ⟨small⟩, .handle ⟨small⟩, .handle ⟨small⟩] {}
    load.pending.length < 2 ∧
      (Call.batch [small, small] ∈ load.calls ∧ [small, small].length ≤ 2) ∧
      (loader.serve request load).2.calls = load.calls ++ [.batch [small], .prepared insert] ∧
      (∃ operation rest before,
        loader.Makes request load load.calls (.batch [small]) operation rest before ∧
          (operation = .flush ∧ rest = [] ∨
            ∃ statement text, operation = .handle statement ∧
              loader.textOf statement = .ok text ∧
              loader.config.largeText.isExceededIn text = true)) ∧
      ∃ operation rest before,
        loader.Makes request load (load.calls ++ [.batch [small]]) (.prepared insert) operation
            rest before ∧
          load.calls ++ [.batch [small]] = before.calls ++ Call.ofWaiting before.pending := by
  intro loader small large insert request load
  have member : Call.batch [small, small] ∈ load.calls := by decide +kernel
  have calls : (loader.serve request load).2.calls =
      load.calls ++ [.batch [small], .prepared insert] := by decide +kernel
  obtain ⟨waits, sizes, occasions⟩ := serveAll_batches loader
    [.handle ⟨small⟩, .handle ⟨small⟩, .handle ⟨small⟩]
  obtain ⟨made, makesCalls, occasionOf⟩ := occasions request
  have both : made = [.batch [small], .prepared insert] :=
    List.append_cancel_left (makesCalls.symm.trans calls)
  refine ⟨waits, ⟨member, (sizes _ member).2⟩, calls, ?_, ?_⟩
  · obtain ⟨operation, rest, before, makes, short, -⟩ :=
      occasionOf [] (.batch [small]) [.prepared insert] both
    rw [List.append_nil] at makes
    exact ⟨operation, rest, before, makes, short [small] rfl (by decide)⟩
  · obtain ⟨operation, rest, before, makes, -, prepared⟩ :=
      occasionOf [.batch [small]] (.prepared insert) [] both
    exact ⟨operation, rest, before, makes, prepared insert rfl⟩

end Loader
end SqlDump
