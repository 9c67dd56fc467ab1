import ColumnBridge.Engine.Basic
import ColumnBridge.Ledger
import ColumnBridge.Text.Blank

/-!
An engine in memory that answers from a script.

Statements are registered with what they leave behind. Sessions, outputs and columns draw their numbers
from one counter, so that no number is given twice. A column stays as long as its output does, or as
somebody holds a reference when the output goes.

* `MemoryEngine`: the state, and `ScriptedResult`: what a statement leaves behind;
* the calls of `StorageEngine`, each named as there;
* `MemoryEngine.fixCount`, `MemoryEngine.outstandingFixes`, `MemoryEngine.liveResults`,
  `MemoryEngine.appendedRows`: what an observer counts.
-/

namespace ColumnBridge

/-- A column that a scripted statement produces. -/
structure ScriptedColumn where
  name : String
  sqlType : String
  digits : Nat
  scale : Nat
  column : Column

/-- What a scripted statement leaves behind. -/
structure ScriptedResult where
  kind : QueryKind
  affectedRows : Int64 := 0
  prepareId : Option Int64 := none
  columns : List ScriptedColumn := []

/-- A session of the engine. -/
structure EngineSession where
  autocommit : Bool := true
  replySize : Nat := 100
  deriving DecidableEq, Repr

/-- A column of an output, and how many references to it are out. -/
structure HeldColumn where
  column : Column
  fixes : Nat := 0

/-- A table and the rows that were added to it. -/
structure MemoryTable where
  columns : List TableColumn
  batches : List (List Column) := []

/-- The state of the engine. -/
structure MemoryEngine where
  initialized : Bool := false
  /-- The failure of the next start. -/
  startupError : Option String := none
  startupOptions : Option StartupOptions := none
  /-- The number given out last. -/
  lastHandle : Nat := 0
  sessions : Ledger SessionId EngineSession := .empty
  scripts : Ledger String ScriptedResult := .empty
  /-- The columns of each output. -/
  results : Ledger ResultId (List ColumnId) := .empty
  columns : Ledger ColumnId HeldColumn := .empty
  tables : Ledger (String × String) MemoryTable := .empty
  /-- How many references can still be taken before one is refused. -/
  lookupsBeforeFailure : Option Nat := none
  /-- The failure of the next append. -/
  appendError : Option String := none
  /-- How often an output was cleaned up, or tried to be. -/
  cleanups : Nat := 0
  closedResults : List Int64 := []
  releasedPrepared : List Int64 := []

namespace MemoryEngine

/-! ### Setting up -/

/-- An engine whose first start fails. -/
def failingStartup (message : String) : MemoryEngine := { startupError := some message }

/-- Register a statement. -/
def script (sql : String) (result : ScriptedResult) (e : MemoryEngine) : MemoryEngine :=
  { e with scripts := e.scripts.insert sql result }

/-- Add an empty table, in place of an old one of that name. -/
def createTable (schema name : String) (columns : List TableColumn) (e : MemoryEngine) :
    MemoryEngine :=
  { e with tables := e.tables.insert (schema, name) { columns } }

/-- Refuse one reference to a column after some that succeed. -/
def failColumnLookup (successes : Nat) (e : MemoryEngine) : MemoryEngine :=
  { e with lookupsBeforeFailure := some successes }

/-- Refuse the next append. -/
def failNextAppend (message : String) (e : MemoryEngine) : MemoryEngine :=
  { e with appendError := some message }

/-! ### Counting -/

/-- How many references to a column are out. -/
def fixCount (e : MemoryEngine) (id : ColumnId) : Nat :=
  ((e.columns.get id).map HeldColumn.fixes).getD 0

/-- How many references to columns are out. -/
def outstandingFixes (e : MemoryEngine) : Nat :=
  e.columns.entries.foldl (fun n c => n + c.2.fixes) 0

/-- How many outputs are not cleaned up. -/
def liveResults (e : MemoryEngine) : Nat := e.results.size

/-- How many sessions are open. -/
def sessionCount (e : MemoryEngine) : Nat := e.sessions.size

/-- The reply size of a session. -/
def replySize (e : MemoryEngine) (id : SessionId) : Option Nat :=
  (e.sessions.get id).map EngineSession.replySize

/-- The rows that were added to a table, batch by batch. -/
def appended (e : MemoryEngine) (schema name : String) : List (List Column) :=
  ((e.tables.get (schema, name)).map MemoryTable.batches).getD []

/-- How many rows were added to a table. -/
def appendedRows (e : MemoryEngine) (schema name : String) : Nat :=
  (e.appended schema name).foldl (fun n batch => n + (batch.head?.map Column.count).getD 0) 0

/-! ### Failures -/

/-- The failure of a start or a connection while the engine is not started. -/
def notStarted (call : String) : EngineError := ⟨s!"MAL:{call}:!engine not started"⟩

/-- The failure of a call for a session that is not open. -/
def noSession (call : String) (id : SessionId) : EngineError :=
  ⟨s!"MAL:{call}:!Connection {id} not found"⟩

/-- The failure of a statement that is not registered. -/
def badStatement (sql : String) : EngineError :=
  ⟨s!"SQLException:sql.execute:42000!syntax error in: \"{sql}\""⟩

/-- The failure of cleaning up an output that is not there. -/
def noResult (id : ResultId) : EngineError := ⟨s!"MAL:cleanup:!Result {id} not found"⟩

/-- The failure of a reference to a column that is not there. -/
def noColumn (id : ColumnId) : EngineError := ⟨s!"MAL:fix:!Could not find column {id}"⟩

/-- The failure of looking at a table that is not there. -/
def noTable (schema name : String) : EngineError :=
  ⟨s!"SQLException:sql.get_table:42S02!Table missing {schema}.{name}"⟩

/-- The failure of adding rows to a table that is not there. -/
def noTableToAppend (schema name : String) : EngineError :=
  ⟨s!"MAL:append:!Table missing {schema}.{name}"⟩

/-- The failure of adding rows with a wrong number of columns. -/
def wrongColumnCount : EngineError := ⟨"MAL:append:!Column count mismatch"⟩

/-! ### The life of the engine -/

/-- Start. A pending failure is used up. -/
def startup (options : StartupOptions) : EngineM MemoryEngine Unit := do
  let e ← get
  match e.startupError with
  | some message =>
    set { e with startupError := none }
    throw ⟨message⟩
  | none => set { e with initialized := true, startupOptions := some options }

/-- Stop, and end all sessions. -/
def shutdown : EngineM MemoryEngine Unit := do
  let e ← get
  if e.initialized then set { e with initialized := false, sessions := .empty }
  else throw (notStarted "shutdown")

/-! ### Sessions -/

/-- The session with a number. -/
def session (id : SessionId) : EngineM MemoryEngine EngineSession := do
  match (← get).sessions.get id with
  | some s => return s
  | none => throw (noSession "session" id)

/-- Open a session. -/
def connect : EngineM MemoryEngine SessionId := do
  let e ← get
  if e.initialized then
    let id := e.lastHandle + 1
    set { e with lastHandle := id, sessions := e.sessions.insert id {} }
    return id
  else throw (notStarted "connect")

/-- Close a session. -/
def disconnect (id : SessionId) : EngineM MemoryEngine Unit := do
  let e ← get
  if e.sessions.contains id then set { e with sessions := e.sessions.erase id }
  else throw (noSession "disconnect" id)

/-- Change an open session. -/
def changeSession (id : SessionId) (f : EngineSession → EngineSession) :
    EngineM MemoryEngine Unit := do
  let _ ← session id
  modify fun e => { e with sessions := e.sessions.modify id f }

/-! ### Statements -/

/-- The descriptions of the columns of a statement, numbered from `id` on. -/
def describe (id : ColumnId) : List ScriptedColumn → List ColumnDescription
  | [] => []
  | c :: cs => ⟨c.name, c.sqlType, c.digits, c.scale, id⟩ :: describe (id + 1) cs

/-- Take in the columns of a statement, numbered from `id` on. -/
def holdColumns (columns : Ledger ColumnId HeldColumn) (id : ColumnId) :
    List ScriptedColumn → Ledger ColumnId HeldColumn
  | [] => columns
  | c :: cs => holdColumns (columns.insert id { column := c.column }) (id + 1) cs

/-- The output of a registered statement. -/
def output (e : MemoryEngine) (result : ScriptedResult) : QueryOutput where
  id := e.lastHandle + 1
  kind := result.kind
  rowCount := ((result.columns.head?).map fun c => c.column.count).getD 0
  affectedRows := result.affectedRows
  prepareId := result.prepareId
  columns := describe (e.lastHandle + 2) result.columns

/-- The engine after a registered statement. -/
def afterQuery (e : MemoryEngine) (result : ScriptedResult) : MemoryEngine :=
  let output := e.output result
  { e with
    lastHandle := output.id + result.columns.length
    results := e.results.insert output.id (output.columns.map ColumnDescription.id)
    columns := holdColumns e.columns (output.id + 1) result.columns }

/-- Run a statement, which is looked up without the blanks around it. -/
def query (id : SessionId) (sql : String) : EngineM MemoryEngine QueryOutput := do
  let _ ← session id
  let e ← get
  match e.scripts.get (Text.trim sql) with
  | none => throw (badStatement sql)
  | some result =>
    set (e.afterQuery result)
    return e.output result

/-- The columns of an output that nobody holds. -/
def isUnheld (ids : List ColumnId) (entry : ColumnId × HeldColumn) : Bool :=
  decide (entry.1 ∈ ids) && entry.2.fixes == 0

/-- Clean an output up. Columns to which references are out stay. -/
def cleanupResult (id : ResultId) : EngineM MemoryEngine Unit := do
  modify fun e => { e with cleanups := e.cleanups + 1 }
  let e ← get
  match e.results.get id with
  | none => throw (noResult id)
  | some ids =>
    set { e with
      results := e.results.erase id
      columns := ⟨e.columns.entries.filter fun c => !isUnheld ids c⟩ }

/-- Note that a result is closed. -/
def closeResult (id : SessionId) (result : Int64) : EngineM MemoryEngine Unit := do
  let _ ← session id
  modify fun e => { e with closedResults := e.closedResults ++ [result] }

/-- Note that a prepared statement is released. -/
def releasePrepared (id : SessionId) (statement : Int64) : EngineM MemoryEngine Unit := do
  let _ ← session id
  modify fun e => { e with releasedPrepared := e.releasedPrepared ++ [statement] }

/-! ### Tables -/

/-- The columns of a table. -/
def table (id : SessionId) (schema name : String) : EngineM MemoryEngine (List TableColumn) := do
  let _ ← session id
  match (← get).tables.get (schema, name) with
  | some t => return t.columns
  | none => throw (noTable schema name)

/-- Add rows to a table. A pending failure is used up before the table is looked for. -/
def append (id : SessionId) (schema name : String) (columns : List Column) :
    EngineM MemoryEngine Unit := do
  let _ ← session id
  let e ← get
  match e.appendError with
  | some message =>
    set { e with appendError := none }
    throw ⟨message⟩
  | none =>
    match e.tables.get (schema, name) with
    | none => throw (noTableToAppend schema name)
    | some t =>
      if columns.length ≠ t.columns.length then throw wrongColumnCount
      else
        set { e with
          tables := e.tables.modify (schema, name) fun t =>
            { t with batches := t.batches ++ [columns] } }

/-! ### References to columns -/

/-- Use up one reference of those that succeed before the refused one. -/
def countLookup (id : ColumnId) : EngineM MemoryEngine Unit := do
  let e ← get
  match e.lookupsBeforeFailure with
  | none => return
  | some 0 =>
    set { e with lookupsBeforeFailure := none }
    throw (noColumn id)
  | some (n + 1) => set { e with lookupsBeforeFailure := some n }

/-- Take a reference to a column. -/
def fixColumn (id : ColumnId) : EngineM MemoryEngine Column := do
  countLookup id
  let e ← get
  match e.columns.get id with
  | none => throw (noColumn id)
  | some held =>
    set { e with columns := e.columns.modify id fun c => { c with fixes := c.fixes + 1 } }
    return held.column

/-- Give a reference to a column back. The column stays. -/
def unfixColumn (id : ColumnId) (e : MemoryEngine) : MemoryEngine :=
  { e with columns := e.columns.modify id fun c => { c with fixes := c.fixes - 1 } }

end MemoryEngine

instance : StorageEngine MemoryEngine where
  startup := MemoryEngine.startup
  shutdown := MemoryEngine.shutdown
  isInitialized e := e.initialized
  connect := MemoryEngine.connect
  disconnect := MemoryEngine.disconnect
  autocommit id := do return (← MemoryEngine.session id).autocommit
  setAutocommit id enabled := MemoryEngine.changeSession id fun s => { s with autocommit := enabled }
  setReplySize id size := MemoryEngine.changeSession id fun s => { s with replySize := size }
  query := MemoryEngine.query
  cleanupResult := MemoryEngine.cleanupResult
  closeResult := MemoryEngine.closeResult
  releasePrepared := MemoryEngine.releasePrepared
  table := MemoryEngine.table
  append := MemoryEngine.append
  fixColumn := MemoryEngine.fixColumn
  unfixColumn := MemoryEngine.unfixColumn

end ColumnBridge
