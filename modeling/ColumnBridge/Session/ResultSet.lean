import ColumnBridge.Arrow.Export
import ColumnBridge.Fetch
import ColumnBridge.Session.Embedding

/-!
Result sets: statement outputs whose columns are held while the set is alive.

* `ColumnGuard`: one reference to a column of the engine;
* `ResultSet.create`: holds every column of an output, or gives all of them back and cleans the output up;
* `ResultSet.free`, `ResultSet.drop`: give the columns back and clean up, with and without the failure of
  the clean-up;
* `ResultSet.column` and the reading of columns.
-/

namespace ColumnBridge

/-- One reference to a column of the engine. -/
structure ColumnGuard where
  id : ColumnId
  column : Column

namespace ColumnGuard

variable {σ : Type} [StorageEngine σ]

/-- Take a reference. -/
def acquire (id : ColumnId) : EngineM σ ColumnGuard := do
  return ⟨id, ← StorageEngine.fixColumn id⟩

/-- Give the reference back. -/
def release (g : ColumnGuard) : EngineM σ Unit := modify (StorageEngine.unfixColumn g.id)

end ColumnGuard

/-- A column of a result set. -/
structure BoundColumn where
  name : String
  sqlType : String
  logical : LogicalType
  digits : Nat
  scale : Nat
  guard : ColumnGuard

/-- A statement output whose columns are held. -/
structure ResultSet where
  id : ResultId
  rowCount : Nat
  columns : List BoundColumn
  options : MarshalOptions

section Life

variable {σ : Type} [StorageEngine σ]

open SessionM

/-- Clean an output up; a failure of that is nobody's concern. -/
def discardOutput (id : ResultId) : SessionM σ Unit := quietly (StorageEngine.cleanupResult id)

/-- Map the type of a described column and hold it. -/
def BoundColumn.bind (d : ColumnDescription) : SessionM σ BoundColumn := do
  let logical ← liftMarshal (LogicalType.ofSql d.sqlType d.digits d.scale)
  let guard ← onEngine (ColumnGuard.acquire d.id)
  return ⟨d.name, d.sqlType, logical, d.digits, d.scale, guard⟩

/-- Give columns back, in order. -/
def releaseColumns (columns : List BoundColumn) : SessionM σ Unit :=
  columns.forM fun c => quietly c.guard.release

/-- Hold the described columns after those that are already bound; at the first failure give all of them
back. -/
def bindColumns (bound : List BoundColumn) : List ColumnDescription → SessionM σ (List BoundColumn)
  | [] => return bound
  | d :: ds => do
    let column ← onFailure (BoundColumn.bind d) (releaseColumns bound)
    bindColumns (bound ++ [column]) ds

namespace ResultSet

/-- The result set of an output. If a column cannot be held, none is, and the output is cleaned up. -/
def create (output : QueryOutput) (options : MarshalOptions) : SessionM σ ResultSet := do
  let columns ← onFailure (bindColumns [] output.columns) (discardOutput output.id)
  return ⟨output.id, output.rowCount, columns, options⟩

/-- Give the columns back and clean the output up. -/
def free (rs : ResultSet) : SessionM σ Unit := do
  releaseColumns rs.columns
  onEngine (StorageEngine.cleanupResult rs.id)

/-- Give the columns back and clean the output up; a failure of that is nobody's concern. -/
def drop (rs : ResultSet) : SessionM σ Unit := do
  releaseColumns rs.columns
  discardOutput rs.id

end ResultSet

end Life

namespace ResultSet

/-! ### Reading -/

/-- The column at an index, from 0. -/
def column (rs : ResultSet) (index : Nat) : Except SessionError Column :=
  match rs.columns[index]? with
  | some c => .ok c.guard.column
  | none => .error (.noSuchColumn index rs.columns.length)

/-- Which rows of a range are nil. -/
def probe (rs : ResultSet) (index first size : Nat) : Except SessionError (List Bool) := do
  liftMarshal ((← rs.column index).probe first size)

/-- The host value of a row, or none. -/
def read (rs : ResultSet) (index row : Nat) : Except (Halt SessionError) (Option HostValue) := do
  liftFetch ((← Halt.lift (rs.column index)).read rs.options row)

/-- A row as a host object, none for nil. -/
def fetchScalar (rs : ResultSet) (host : ObjectHost) (context : HostContext) (index row : Nat) :
    Except (Halt SessionError) (Option HostValue) × ObjectHost :=
  match rs.column index with
  | .error e => (.error (.failure e), host)
  | .ok c =>
    let (result, host) := c.fetchScalar host context rs.options row
    (liftFetch result, host)

/-- A range of rows into a flat array. -/
def fetchFlat (rs : ResultSet) (index : Nat) {e : Element} (first size : Nat)
    (target : Destination e) : Except SessionError (Destination e) := do
  liftMarshal ((← rs.column index).fetchFlat first size target)

/-- A range of rows as host objects. -/
def fetchObjects (rs : ResultSet) (host : ObjectHost) (context : HostContext) (index first : Nat)
    (out : List (Option HostValue)) :
    Except (Halt SessionError) Unit × List (Option HostValue) × ObjectHost :=
  match rs.column index with
  | .error e => (.error (.failure e), out, host)
  | .ok c =>
    let outcome := c.fetchObjects host context rs.options first out
    (liftFetch outcome.result, outcome.out, outcome.host)

/-- All columns as an Arrow batch. -/
def toRecordBatch (rs : ResultSet) : Except SessionError RecordBatch :=
  liftMarshal (RecordBatch.ofColumns (rs.columns.map fun c => (c.name, c.guard.column)))

end ResultSet

end ColumnBridge
