import ColumnBridge.Session.ResultSet

/-!
Connections and the statements that run on them.

* `Connection`: a link and the options of its result sets; copies share the link;
* `Connection.withSession`: the one way to the engine, refused once the link is closed;
* `Connection.query`, `update`, `prepare`, `executePrepared`, `executeAndIgnore`: a statement, with its
  output bound to a result set or cleaned up;
* `Connection.close`: closes the link before the session, so that a failure leaves it closed.
-/

namespace ColumnBridge

/-- A connection to an embedded engine. -/
structure Connection where
  link : LinkId
  options : MarshalOptions
  deriving DecidableEq, Repr

/-- A prepared statement and the description of its parameters. -/
structure PreparedStatement where
  id : Int64
  parameters : ResultSet

/-- What the execution of a prepared statement gives. -/
inductive ExecOutcome
  | resultSet (rs : ResultSet)
  | updateCount (count : Int64)

/-- The number that a statement reports instead of rows. -/
def QueryOutput.updateCount (output : QueryOutput) : Int64 :=
  match output.kind with
  | .update => output.affectedRows
  | .schema => -2
  | _ => -1

namespace Connection

variable {σ : Type} [StorageEngine σ]

open SessionM

/-- A call on the session of a connection. -/
def withSession {α : Type} (c : Connection) (call : SessionId → EngineM σ α) : SessionM σ α := do
  match (← get).session c.link with
  | some id => onEngine (call id)
  | none => throw .connectionClosed

/-- Whether a connection is closed. -/
def isClosed (c : Connection) (w : Embedding σ) : Bool := (w.session c.link).isNone

def autocommit (c : Connection) : SessionM σ Bool := c.withSession StorageEngine.autocommit

def setAutocommit (c : Connection) (enabled : Bool) : SessionM σ Unit :=
  c.withSession fun id => StorageEngine.setAutocommit id enabled

def setReplySize (c : Connection) (size : Nat) : SessionM σ Unit :=
  c.withSession fun id => StorageEngine.setReplySize id size

def releasePrepared (c : Connection) (statement : Int64) : SessionM σ Unit :=
  c.withSession fun id => StorageEngine.releasePrepared id statement

def closeResult (c : Connection) (result : Int64) : SessionM σ Unit :=
  c.withSession fun id => StorageEngine.closeResult id result

/-! ### Statements -/

/-- Run a statement. -/
def execute (c : Connection) (sql : String) : SessionM σ QueryOutput :=
  c.withSession fun id => StorageEngine.query id sql

/-- Clean a statement output up. -/
def cleanup (output : QueryOutput) : SessionM σ Unit :=
  onEngine (StorageEngine.cleanupResult output.id)

/-- Clean a statement output up and fail. -/
def refuse {α : Type} (output : QueryOutput) (e : SessionError) : SessionM σ α := do
  discardOutput output.id
  throw e

/-- The result set of an output that has to have columns. -/
def bind (c : Connection) (output : QueryOutput) : SessionM σ ResultSet :=
  if output.columns.isEmpty then refuse output .noColumns else ResultSet.create output c.options

/-- Run a statement that produces rows. -/
def query (c : Connection) (sql : String) : SessionM σ ResultSet := do
  let output ← c.execute sql
  if output.kind.isTabular then c.bind output else refuse output .noResultSet

/-- Run a statement for its count. -/
def update (c : Connection) (sql : String) : SessionM σ Int64 := do
  let output ← c.execute sql
  cleanup output
  return output.updateCount

/-- Prepare a statement. -/
def prepare (c : Connection) (sql : String) : SessionM σ PreparedStatement := do
  let output ← c.execute sql
  match output.kind, output.prepareId with
  | .prepare, some id => return ⟨id, ← c.bind output⟩
  | _, _ => refuse output .noPreparedStatement

/-- Run the execution of a prepared statement, for its rows or its count. -/
def executePrepared (c : Connection) (sql : String) : SessionM σ ExecOutcome := do
  let output ← c.execute sql
  if output.kind = .table then
    return ExecOutcome.resultSet (← ResultSet.create output c.options)
  else
    cleanup output
    return ExecOutcome.updateCount output.updateCount

/-- Run a statement for its effect. -/
def executeAndIgnore (c : Connection) (sql : String) : SessionM σ Unit := do
  cleanup (← c.execute sql)

/-! ### Closing -/

/-- Close a connection and all its copies; one that is closed stays so. -/
def close (c : Connection) : SessionM σ Unit := do
  match (← get).session c.link with
  | none => return
  | some id =>
    modify fun w => w.closeLink c.link
    onEngine (StorageEngine.disconnect id)

end Connection

end ColumnBridge
