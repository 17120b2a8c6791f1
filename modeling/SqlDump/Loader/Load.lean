import SqlDump.Config
import SqlDump.Insert.Column
import SqlDump.Loader.Executor
import SqlDump.Script
import SqlDump.Source.Reader

/-!
# Loading a dump

A loader passes the INSERT statements of a dump on to an executor: in batches, except those with
an oversized string, which are executed one by one with their values bound to placeholders.
Before it does so, it may remove a column.  All other statements are skipped.
-/

namespace SqlDump

/-- Counts of a load. -/
structure Summary where
  /-- Number of statements executed. -/
  executed : Nat := 0
  /-- Number of statements that failed. -/
  failed : Nat := 0
  /-- Number of INSERT statements, if they were counted beforehand. -/
  total : Nat := 0
  deriving DecidableEq, Repr, Inhabited

/-- How far a load has come. -/
structure Load where
  /-- Statements waiting to be executed together. -/
  pending : List Text := []
  /-- The counts so far. -/
  summary : Summary := {}
  /-- What the executor was asked for so far. -/
  calls : List Call := []
  deriving DecidableEq, Repr

namespace Load

/-- Counts executed statements. -/
def addExecuted (load : Load) (count : Nat) : Load :=
  { load with summary := { load.summary with executed := load.summary.executed + count } }

/-- Counts failed statements. -/
def addFailed (load : Load) (count : Nat) : Load :=
  { load with summary := { load.summary with failed := load.summary.failed + count } }

/-- Notes a call of the executor. -/
def noteCall (load : Load) (call : Call) : Load :=
  { load with calls := load.calls ++ [call] }

end Load

/-- A loader: its settings and the executor it asks. -/
structure Loader where
  /-- The settings. -/
  config : Config
  /-- The executor. -/
  executor : Executor

namespace Loader

/-- Counts statements as failed and goes on, if the settings ask for that; otherwise stops. -/
def fail (loader : Loader) (failure : Failure) (count : Nat) (load : Load) :
    Except Failure Unit × Load :=
  if loader.config.continueOnError then (.ok (), load.addFailed count) else (.error failure, load)

/-- Executes the statements that wait. -/
def flush (loader : Loader) (load : Load) : Except Failure Unit × Load :=
  if load.pending = [] then (.ok (), load)
  else
    let call := Call.batch load.pending
    let asked := { load with pending := [] }.noteCall call
    match loader.executor load.calls call with
    | .done count => (.ok (), asked.addExecuted count)
    | .failed reason =>
      loader.fail (.batch load.pending.length reason) load.pending.length asked

/-- Executes one statement with its values bound to placeholders. -/
def executePrepared (loader : Loader) (statement : Text) (load : Load) :
    Except Failure Unit × Load :=
  match Insert.prepare loader.config.largeText statement with
  | .error error => loader.fail (.rejected error) 1 load
  | .ok prepared =>
    let call := Call.prepared prepared
    let asked := load.noteCall call
    match loader.executor load.calls call with
    | .done _ => (.ok (), asked.addExecuted 1)
    | .failed reason => loader.fail (.executor reason) 1 asked

/-- The text to be executed for an INSERT statement. -/
def textOf (loader : Loader) (statement : Statement) : Except Error Text :=
  if loader.config.ignoreKey then
    Insert.removeColumn statement.text loader.config.keyName
  else .ok statement.text

/-- Passes on a text: by itself behind all that wait, or to the batch that is being gathered. -/
def submit (loader : Loader) (text : Text) (load : Load) : Except Failure Unit × Load :=
  if loader.config.largeText.isExceededIn text then
    match loader.flush load with
    | (.ok (), flushed) => loader.executePrepared text flushed
    | (.error failure, flushed) => (.error failure, flushed)
  else
    let gathered := { load with pending := load.pending ++ [text] }
    if loader.config.batchSize ≤ gathered.pending.length then loader.flush gathered
    else (.ok (), gathered)

/-- Handles one statement. -/
def handle (loader : Loader) (statement : Statement) (load : Load) :
    Except Failure Unit × Load :=
  if statement.isInsert then
    match loader.textOf statement with
    | .ok text => loader.submit text load
    | .error error => loader.fail (.rejected error) 1 load
  else (.ok (), load)

/-- Handles what a reader hands out, up to the first failure. -/
def handleAll (loader : Loader) :
    List (Except Error Statement) → Load → Except Failure Unit × Load
  | [], load => (.ok (), load)
  | .error error :: _, load => (.error (.rejected error), load)
  | .ok statement :: rest, load =>
    match loader.handle statement load with
    | (.ok (), handled) => loader.handleAll rest handled
    | (.error failure, handled) => (.error failure, handled)

/-- Handles the statements of a script. -/
def handleScript (loader : Loader) (script : Text) (load : Load) : Except Failure Unit × Load :=
  loader.handleAll ((Script.statements script).map .ok) load

/-- Loads a source and executes what waits at its end. -/
def run (loader : Loader) (source : List Segment) (load : Load) : Except Failure Unit × Load :=
  match loader.handleAll (Reader.ofSource loader.config.chunkSize source).items load with
  | (.ok (), handled) => loader.flush handled
  | (.error failure, handled) => (.error failure, handled)

/-- Counts the INSERT statements of one source and then loads another.  They are what the two
readings of one file deliver, which differ if the file changes in between. -/
def runCounted (loader : Loader) (counted loaded : List Segment) (load : Load) :
    Except Failure Unit × Load :=
  match Reader.countInserts loader.config.chunkSize counted with
  | .error error => (.error (.rejected error), load)
  | .ok total => loader.run loaded { load with summary := { load.summary with total } }

/-- Counts the INSERT statements of a file and then loads it. -/
def runFile (loader : Loader) (content : List UInt8) (load : Load) :
    Except Failure Unit × Load :=
  loader.runCounted [.bytes content] [.bytes content] load

end Loader
end SqlDump
