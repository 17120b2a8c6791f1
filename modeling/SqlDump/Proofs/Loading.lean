import Mathlib.Data.List.Forall2
import SqlDump.Loader.Load
import SqlDump.Proofs.Sources

/-!
# What a loader passes on

A loader may be asked, in any order, to handle statements and to execute what waits.  While it is
not stopped by a failure, the texts carried by its calls, with those that still wait behind them,
are those of the accepted INSERT statements, each once and in order.
-/

namespace SqlDump

/-- What a loader can be asked to do. -/
inductive Operation where
  /-- To handle a statement. -/
  | handle (statement : Statement)
  /-- To execute the statements that wait. -/
  | flush
  deriving DecidableEq, Repr

namespace Operation

/-- The statements to be handled. -/
def statements : List Operation → List Statement
  | [] => []
  | .handle statement :: rest => statement :: statements rest
  | .flush :: rest => statements rest

end Operation

/-- The texts that a call passes on: a batch passes on texts without oversized strings, and a
prepared statement the one text with an oversized string that it was prepared from. -/
inductive Call.Carries (policy : LargeTextPolicy) : Call → List Text → Prop where
  | batch {texts : List Text}
      (small : ∀ text ∈ texts, policy.isExceededIn text = false) :
      Carries policy (.batch texts) texts
  | prepared {text : Text} {insert : PreparedInsert}
      (large : policy.isExceededIn text = true)
      (prepares : Insert.prepare policy text = .ok insert) :
      Carries policy (.prepared insert) [text]

/-- The calls so far carry the first of some texts, and the others wait for the next batch. -/
structure Load.Holds (policy : LargeTextPolicy) (load : Load) (texts : List Text) : Prop where
  carried : ∃ parts, List.Forall₂ (Call.Carries policy) load.calls parts ∧
    parts.flatten ++ load.pending = texts
  small : ∀ text ∈ load.pending, policy.isExceededIn text = false

namespace Load.Holds

variable {policy : LargeTextPolicy} {load : Load} {texts : List Text}

theorem start (policy : LargeTextPolicy) : Holds policy {} [] :=
  ⟨⟨[], .nil, rfl⟩, by simp⟩

/-- Only the calls and the texts that wait matter. -/
theorem of_eq
    (holds : load.Holds policy texts)
    {other : Load}
    (calls : other.calls = load.calls)
    (pending : other.pending = load.pending) :
    other.Holds policy texts := by
  obtain ⟨carried, small⟩ := holds
  rw [← calls, ← pending] at carried
  rw [← pending] at small
  exact ⟨carried, small⟩

/-- A batch of all texts that wait carries them. -/
theorem noteBatch (holds : load.Holds policy texts) :
    Holds policy ({ load with pending := [] }.noteCall (.batch load.pending)) texts := by
  obtain ⟨⟨parts, carries, whole⟩, small⟩ := holds
  refine ⟨⟨parts ++ [load.pending], ?_, ?_⟩, by simp [noteCall]⟩
  · exact List.rel_append carries (.cons (.batch small) .nil)
  · simpa [noteCall] using whole

/-- If none waits, a prepared statement carries the next text. -/
theorem notePrepared
    (holds : load.Holds policy texts)
    (empty : load.pending = [])
    {text : Text}
    {insert : PreparedInsert}
    (large : policy.isExceededIn text = true)
    (prepares : Insert.prepare policy text = .ok insert) :
    Holds policy (load.noteCall (.prepared insert)) (texts ++ [text]) := by
  obtain ⟨⟨parts, carries, whole⟩, small⟩ := holds
  refine ⟨⟨parts ++ [[text]], ?_, ?_⟩, small⟩
  · exact List.rel_append carries (.cons (.prepared large prepares) .nil)
  · rw [← whole]
    simp [noteCall, empty]

/-- A text without oversized strings may wait behind the others. -/
theorem gather
    (holds : load.Holds policy texts)
    {text : Text}
    (fits : policy.isExceededIn text = false) :
    Holds policy { load with pending := load.pending ++ [text] } (texts ++ [text]) := by
  obtain ⟨⟨parts, carries, whole⟩, small⟩ := holds
  refine ⟨⟨parts, carries, ?_⟩, ?_⟩
  · rw [← whole, List.append_assoc]
  · intro waiting member
    rcases List.mem_append.mp member with earlier | last
    · exact small waiting earlier
    · rw [List.mem_singleton.mp last]
      exact fits

end Load.Holds

namespace Loader

/-- Does what it is asked to do. -/
def perform (loader : Loader) : Operation → Load → Except Failure Unit × Load
  | .handle statement => loader.handle statement
  | .flush => loader.flush

/-- Does one thing after the other, up to the first failure. -/
def performAll (loader : Loader) : List Operation → Load → Except Failure Unit × Load
  | [], load => (.ok (), load)
  | operation :: rest, load =>
    match loader.perform operation load with
    | (.ok (), performed) => loader.performAll rest performed
    | (.error failure, performed) => (.error failure, performed)

/-- Whether a text needs no preparation or can be prepared. -/
def accepts (loader : Loader) (text : Text) : Bool :=
  !loader.config.largeText.isExceededIn text ||
    (Insert.prepare loader.config.largeText text).isOk

/-- The text that an INSERT statement is executed as, without the column if that is to be removed.
A statement whose column cannot be removed is rejected, and so is one whose text has an oversized
string and cannot be prepared. -/
def accepted? (loader : Loader) (statement : Statement) : Option Text :=
  if loader.config.ignoreKey then
    (Insert.removeColumn statement.text loader.config.keyName).toOption.filter loader.accepts
  else (some statement.text).filter loader.accepts

/-- The texts that the INSERT statements among some statements are executed as. -/
def acceptedTexts (loader : Loader) (statements : List Statement) : List Text :=
  (statements.filter Statement.isInsert).filterMap loader.accepted?

/-! ## Single steps -/

variable {loader : Loader} {load : Load} {texts : List Text}

/-- Going on after a failure changes the counts only. -/
theorem fail_load (loader : Loader) (failure : Failure) (count : Nat) (load : Load) :
    (loader.fail failure count load).2.calls = load.calls ∧
      (loader.fail failure count load).2.pending = load.pending := by
  unfold fail
  split <;> exact ⟨rfl, rfl⟩

theorem continueOnError_of_fail
    {failure : Failure}
    {count : Nat}
    (succeeded : (loader.fail failure count load).1 = .ok ()) :
    loader.config.continueOnError = true := by
  unfold fail at succeeded
  split at succeeded
  · assumption
  · cases succeeded

/-- Whatever the executor answers, nothing waits any longer. -/
theorem holds_flush (holds : load.Holds loader.config.largeText texts) :
    (loader.flush load).2.Holds loader.config.largeText texts ∧
      (loader.flush load).2.pending = [] := by
  unfold flush
  split_ifs with empty
  · exact ⟨holds, empty⟩
  · dsimp only
    split
    · exact ⟨holds.noteBatch.of_eq rfl rfl, rfl⟩
    · obtain ⟨calls, pending⟩ := fail_load loader (.batch load.pending.length _)
        load.pending.length ({ load with pending := [] }.noteCall (.batch load.pending))
      exact ⟨holds.noteBatch.of_eq calls pending, pending⟩

/-- A text that can be prepared is passed on by itself, whatever the executor answers. -/
theorem holds_executePrepared
    (holds : load.Holds loader.config.largeText texts)
    (empty : load.pending = [])
    {text : Text}
    (large : loader.config.largeText.isExceededIn text = true)
    {prepared : PreparedInsert}
    (prepares : Insert.prepare loader.config.largeText text = .ok prepared) :
    (loader.executePrepared text load).2.Holds loader.config.largeText (texts ++ [text]) := by
  have noted := holds.notePrepared empty large prepares
  simp only [executePrepared, prepares]
  split
  · exact noted.of_eq rfl rfl
  · obtain ⟨calls, pending⟩ :=
      fail_load loader (.executor _) 1 (load.noteCall (.prepared prepared))
    exact noted.of_eq calls pending

/-- An acceptable text is passed on behind the others. -/
theorem holds_submit
    (holds : load.Holds loader.config.largeText texts)
    {text : Text}
    (accepted : loader.accepts text = true)
    (succeeded : (loader.submit text load).1 = .ok ()) :
    (loader.submit text load).2.Holds loader.config.largeText (texts ++ [text]) := by
  cases large : loader.config.largeText.isExceededIn text with
  | false =>
    simp only [submit, large, Bool.false_eq_true, if_false]
    split
    · exact (holds_flush (holds.gather large)).1
    · exact holds.gather large
  | true =>
    obtain ⟨flushed, empty⟩ := holds_flush holds
    simp only [submit, large, if_true] at succeeded ⊢
    generalize loader.flush load = result at flushed empty succeeded ⊢
    obtain ⟨outcome, after⟩ := result
    cases outcome with
    | error failure => cases succeeded
    | ok =>
      cases prepares : Insert.prepare loader.config.largeText text with
      | ok prepared => exact holds_executePrepared flushed empty large prepares
      | error error => simp [accepts, large, prepares, Except.isOk, Except.toBool] at accepted

/-- A text that is not acceptable leaves nothing behind but a count. -/
theorem holds_submit_of_not_accepts
    (holds : load.Holds loader.config.largeText texts)
    {text : Text}
    (rejected : loader.accepts text = false)
    (succeeded : (loader.submit text load).1 = .ok ()) :
    (loader.submit text load).2.Holds loader.config.largeText texts ∧
      loader.config.continueOnError = true := by
  obtain ⟨flushed, -⟩ := holds_flush holds
  simp only [accepts, Bool.or_eq_false_iff, Bool.not_eq_false'] at rejected
  obtain ⟨large, fails⟩ := rejected
  simp only [submit, large, if_true] at succeeded ⊢
  generalize loader.flush load = result at flushed succeeded ⊢
  obtain ⟨outcome, after⟩ := result
  cases outcome with
  | error failure => cases succeeded
  | ok =>
    cases prepares : Insert.prepare loader.config.largeText text with
    | ok prepared => simp [prepares, Except.isOk, Except.toBool] at fails
    | error error =>
      simp only [executePrepared, prepares] at succeeded ⊢
      obtain ⟨calls, pending⟩ := fail_load loader (.rejected error) 1 after
      exact ⟨flushed.of_eq calls pending, continueOnError_of_fail succeeded⟩

theorem accepted?_eq (loader : Loader) (statement : Statement) :
    loader.accepted? statement = (loader.textOf statement).toOption.filter loader.accepts := by
  unfold accepted? textOf
  split <;> rfl

theorem accepted?_of_error
    {statement : Statement}
    {error : Error}
    (text? : loader.textOf statement = .error error) :
    loader.accepted? statement = none := by
  rw [accepted?_eq, text?]
  rfl

theorem accepted?_of_ok
    {statement : Statement}
    {text : Text}
    (text? : loader.textOf statement = .ok text) :
    loader.accepted? statement = if loader.accepts text then some text else none := by
  rw [accepted?_eq, text?]
  rfl

/-- An INSERT statement is passed on if it is accepted; otherwise the settings ask to go on. -/
theorem holds_handle
    (holds : load.Holds loader.config.largeText texts)
    {statement : Statement}
    (succeeded : (loader.handle statement load).1 = .ok ()) :
    (loader.handle statement load).2.Holds loader.config.largeText
        (texts ++ loader.acceptedTexts [statement]) ∧
      (statement.isInsert = true → loader.accepted? statement = none →
        loader.config.continueOnError = true) := by
  cases insert : statement.isInsert with
  | false => simpa [handle, acceptedTexts, insert] using holds
  | true =>
    simp only [handle, insert, if_true] at succeeded ⊢
    cases text? : loader.textOf statement with
    | error error =>
      have none := accepted?_of_error text?
      simp only [text?] at succeeded ⊢
      obtain ⟨calls, pending⟩ := fail_load loader (.rejected error) 1 load
      refine ⟨?_, fun _ _ => continueOnError_of_fail succeeded⟩
      simpa [acceptedTexts, insert, none] using holds.of_eq calls pending
    | ok text =>
      have accepted := accepted?_of_ok text?
      simp only [text?] at succeeded ⊢
      cases acceptable : loader.accepts text with
      | true =>
        rw [acceptable, if_pos rfl] at accepted
        refine ⟨?_, fun _ none => absurd (accepted.symm.trans none) (Option.some_ne_none text)⟩
        simpa [acceptedTexts, insert, accepted] using holds_submit holds acceptable succeeded
      | false =>
        rw [acceptable, if_neg Bool.false_ne_true] at accepted
        obtain ⟨submitted, goesOn⟩ := holds_submit_of_not_accepts holds acceptable succeeded
        refine ⟨?_, fun _ _ => goesOn⟩
        simpa [acceptedTexts, insert, accepted] using submitted

/-! ## Sequences -/

theorem acceptedTexts_append (loader : Loader) (front back : List Statement) :
    loader.acceptedTexts (front ++ back) =
      loader.acceptedTexts front ++ loader.acceptedTexts back := by
  simp [acceptedTexts]

theorem holds_performAll
    (holds : load.Holds loader.config.largeText texts)
    (operations : List Operation)
    (succeeded : (loader.performAll operations load).1 = .ok ()) :
    (loader.performAll operations load).2.Holds loader.config.largeText
        (texts ++ loader.acceptedTexts (Operation.statements operations)) ∧
      ∀ statement ∈ Operation.statements operations, statement.isInsert = true →
        loader.accepted? statement = none → loader.config.continueOnError = true := by
  -- the texts passed on by the operations before are generalized with the load they led to
  induction operations generalizing load texts with
  | nil =>
    refine ⟨?_, by simp [Operation.statements]⟩
    simpa [performAll, Operation.statements, acceptedTexts] using holds
  | cons operation rest inductionHypothesis =>
    rw [performAll] at succeeded ⊢
    cases operation with
    | flush =>
      obtain ⟨flushed, -⟩ := holds_flush holds
      simp only [perform, Operation.statements] at succeeded ⊢
      generalize loader.flush load = result at flushed succeeded ⊢
      obtain ⟨outcome, after⟩ := result
      cases outcome with
      | ok => exact inductionHypothesis flushed succeeded
      | error failure => cases succeeded
    | handle statement =>
      have step := @holds_handle loader load texts holds statement
      simp only [perform, Operation.statements] at succeeded ⊢
      generalize loader.handle statement load = result at step succeeded ⊢
      obtain ⟨outcome, after⟩ := result
      cases outcome with
      | ok =>
        obtain ⟨handled, goesOn⟩ := step rfl
        obtain ⟨performed, laterGoOn⟩ := inductionHypothesis handled succeeded
        rw [List.append_assoc, ← acceptedTexts_append] at performed
        refine ⟨performed, ?_⟩
        intro other member
        rcases List.mem_cons.mp member with rfl | later
        · exact goesOn
        · exact laterGoOn other later
      | error failure => cases succeeded

/-- Handling a script and executing what waits at its end is a sequence of operations. -/
theorem performAll_handle_flush
    (loader : Loader)
    (statements : List Statement)
    (load : Load) :
    loader.performAll (statements.map .handle ++ [.flush]) load =
      match loader.handleAll (statements.map .ok) load with
      | (.ok (), handled) => loader.flush handled
      | (.error failure, handled) => (.error failure, handled) := by
  induction statements generalizing load with
  | nil =>
    simp only [List.map_nil, List.nil_append, performAll, perform, handleAll]
    generalize loader.flush load = result
    obtain ⟨outcome, after⟩ := result
    cases outcome <;> rfl
  | cons statement rest inductionHypothesis =>
    simp only [List.map_cons, List.cons_append, performAll, perform, handleAll]
    generalize loader.handle statement load = result
    obtain ⟨outcome, after⟩ := result
    cases outcome with
    | ok => exact inductionHypothesis after
    | error failure => rfl

/-- As long as a new loader succeeds, its calls carry the texts of the accepted INSERT statements,
each once and in order, except those that still wait; an INSERT statement is left out only if the
settings ask to go on after a failure.  Loading an intact source is to handle the statements of
its script and to execute what waits, however the bytes are delivered. -/
theorem performAll_carries_accepted (loader : Loader) :
    (∀ operations, (loader.performAll operations {}).1 = .ok () →
      (loader.performAll operations {}).2.Holds loader.config.largeText
          (loader.acceptedTexts (Operation.statements operations)) ∧
        ∀ statement ∈ Operation.statements operations, statement.isInsert = true →
          loader.accepted? statement = none → loader.config.continueOnError = true) ∧
      ∀ source script load, (∀ reason, Segment.failure reason ∉ source) →
        Segment.content source = Utf8.encode script →
        loader.run source load =
          loader.performAll ((Script.statements script).map .handle ++ [.flush]) load := by
  refine ⟨?_, ?_⟩
  · intro operations succeeded
    exact holds_performAll (Load.Holds.start _) operations succeeded
  · intro source script load intact encoded
    rw [run, Reader.items_of_encoded _ source script intact encoded]
    exact (performAll_handle_flush loader _ load).symm

/-- A loader that removes a column and goes on, although all its batches fail. -/
theorem performAll_carries_accepted_of_failing :
    let loader : Loader := {
      config := { batchSize := 2, ignoreKey := true, keyName := ['k'], continueOnError := true,
                  largeText := { maxBytes := 3, maxChars := 3 } }
      executor := fun _ call =>
        match call with
        | .batch _ => .failed ['e']
        | .prepared _ => .done 1 }
    let operations : List Operation :=
      [.handle ⟨"INSERT INTO t (k, a) VALUES (1, 'x')".toList⟩, .handle ⟨"COMMIT".toList⟩,
        .handle ⟨"INSERT INTO t (k, a) VALUES (2, 'large')".toList⟩,
        .handle ⟨"INSERT INTO t".toList⟩, .flush,
        .handle ⟨"INSERT INTO t (k, a) VALUES (3, 'y')".toList⟩]
    let source : List Segment := [.bytes [0x41, 0xC3], .interrupted, .bytes [0xA9, 0x3B]]
    (loader.performAll operations {}).1 = .ok () ∧
      (loader.performAll operations {}).2.Holds loader.config.largeText
        ["INSERT INTO t (a) VALUES ('x')".toList, "INSERT INTO t (a) VALUES ('large')".toList,
          "INSERT INTO t (a) VALUES ('y')".toList] ∧
      (loader.performAll operations {}).2.pending = ["INSERT INTO t (a) VALUES ('y')".toList] ∧
      loader.run source {} =
        loader.performAll ((Script.statements ['A', 'é', ';']).map .handle ++ [.flush]) {} := by
  intro loader operations source
  have evaluated : (loader.performAll operations {}).1 = .ok () ∧
      (loader.performAll operations {}).2.pending = ["INSERT INTO t (a) VALUES ('y')".toList] ∧
      loader.acceptedTexts (Operation.statements operations) =
        ["INSERT INTO t (a) VALUES ('x')".toList, "INSERT INTO t (a) VALUES ('large')".toList,
          "INSERT INTO t (a) VALUES ('y')".toList] := by
    decide +kernel
  obtain ⟨succeeded, pending, accepted⟩ := evaluated
  obtain ⟨holds, -⟩ := (performAll_carries_accepted loader).1 operations succeeded
  rw [accepted] at holds
  refine ⟨succeeded, holds, pending, ?_⟩
  exact (performAll_carries_accepted loader).2 source ['A', 'é', ';'] {} (by simp [source]) rfl

end Loader
end SqlDump
