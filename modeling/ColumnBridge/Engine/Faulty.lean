import ColumnBridge.Engine.Basic

/-!
An engine that fails on demand.

* `FaultyEngine`: any engine with failures that wait for calls; a call for which one waits uses it up and
  does not reach the engine;
* `OutputEdit`: a change to the output of the next statement that succeeds.
-/

namespace ColumnBridge

/-- The calls that can be made to fail. -/
inductive EngineCall
  | startup
  | shutdown
  | connect
  | disconnect
  | setAutocommit
  | setReplySize
  | query
  | cleanupResult
  | closeResult
  | releasePrepared
  | table
  | append
  | fixColumn
  deriving DecidableEq, Repr

namespace EngineCall

/-- All calls that can be made to fail. -/
def all : List EngineCall :=
  [startup, shutdown, connect, disconnect, setAutocommit, setReplySize, query, cleanupResult,
    closeResult, releasePrepared, table, append, fixColumn]

/-- The name of a call. -/
def name : EngineCall → String
  | startup => "startup"
  | shutdown => "shutdown"
  | connect => "connect"
  | disconnect => "disconnect"
  | setAutocommit => "set_autocommit"
  | setReplySize => "set_reply_size"
  | query => "query"
  | cleanupResult => "cleanup_result"
  | closeResult => "close_result"
  | releasePrepared => "release_prepared"
  | table => "table"
  | append => "append"
  | fixColumn => "fix_column"

end EngineCall

/-- A change to a statement output. -/
structure OutputEdit where
  kind : Option QueryKind := none
  prepareId : Option (Option Int64) := none
  rowCount : Option Nat := none
  deriving DecidableEq, Repr

/-- The output after a change. -/
def OutputEdit.apply (edit : OutputEdit) (output : QueryOutput) : QueryOutput :=
  { output with
    kind := edit.kind.getD output.kind
    prepareId := edit.prepareId.getD output.prepareId
    rowCount := edit.rowCount.getD output.rowCount }

/-- An engine that fails on demand. -/
structure FaultyEngine (σ : Type) where
  engine : σ
  /-- The failures that wait, with their calls, in the order in which they came. -/
  faults : List (EngineCall × String) := []
  nextOutput : Option OutputEdit := none

namespace FaultyEngine

variable {σ : Type}

/-- Let a failure wait for a call. -/
def addFault (call : EngineCall) (message : String) (e : FaultyEngine σ) : FaultyEngine σ :=
  { e with faults := e.faults ++ [(call, message)] }

/-- Make a call on the engine inside. -/
def pass {α : Type} (run : EngineM σ α) : EngineM (FaultyEngine σ) α := fun e =>
  let (result, engine) := run e.engine
  (result, { e with engine })

/-- Make a call on the engine inside, unless a failure waits for it. -/
def guarded {α : Type} (call : EngineCall) (run : EngineM σ α) : EngineM (FaultyEngine σ) α := do
  let e ← get
  match e.faults.find? fun f => f.1 = call with
  | some (_, message) =>
    set { e with faults := e.faults.eraseP fun f => f.1 = call }
    throw ⟨message⟩
  | none => pass run

/-- Change an output as the waiting edit says, and use the edit up. -/
def edited (output : QueryOutput) : EngineM (FaultyEngine σ) QueryOutput := do
  let e ← get
  match e.nextOutput with
  | none => return output
  | some edit =>
    set { e with nextOutput := none }
    return edit.apply output

end FaultyEngine

open FaultyEngine in
instance {σ : Type} [StorageEngine σ] : StorageEngine (FaultyEngine σ) where
  startup options := guarded .startup (StorageEngine.startup options)
  shutdown := guarded .shutdown StorageEngine.shutdown
  isInitialized e := StorageEngine.isInitialized e.engine
  connect := guarded .connect StorageEngine.connect
  disconnect id := guarded .disconnect (StorageEngine.disconnect id)
  autocommit id := pass (StorageEngine.autocommit id)
  setAutocommit id enabled := guarded .setAutocommit (StorageEngine.setAutocommit id enabled)
  setReplySize id size := guarded .setReplySize (StorageEngine.setReplySize id size)
  query id sql := do edited (← guarded .query (StorageEngine.query id sql))
  cleanupResult id := guarded .cleanupResult (StorageEngine.cleanupResult id)
  closeResult id result := guarded .closeResult (StorageEngine.closeResult id result)
  releasePrepared id statement :=
    guarded .releasePrepared (StorageEngine.releasePrepared id statement)
  table id schema name := guarded .table (StorageEngine.table id schema name)
  append id schema name columns := guarded .append (StorageEngine.append id schema name columns)
  fixColumn id := guarded .fixColumn (StorageEngine.fixColumn id)
  unfixColumn id e := { e with engine := StorageEngine.unfixColumn id e.engine }

end ColumnBridge
