import ColumnBridge.Column.Build
import ColumnBridge.Session.Connection

/-!
Stored tables: their columns, and adding rows in bulk.

* `Table`: a name on a connection; every question is answered by the engine anew;
* `AppendArray`: rows of one column, as a flat array or as host objects of one class, any of which the host
  may fail to read;
* `Table.append`: builds every column before any row is added.
-/

namespace ColumnBridge

/-- A stored table, by its name. -/
structure Table where
  connection : Connection
  schema : String
  name : String

/-- Rows of one column. -/
inductive AppendArray
  | flat (element : Element) (values : Array element.Carrier)
  /-- Objects of a class, as the host reads them; none stands for nil. -/
  | objects (cls : HostKind) (rows : List (Except MarshalError (Option HostValue)))

namespace AppendArray

/-- The number of rows. -/
def length : AppendArray → Nat
  | flat _ values => Array.size values
  | objects _ rows => rows.length

/-- Whether the elements suit columns whose values are of a kind: numbers and truth values come in flat
arrays, all else as objects of their class. -/
def fits : AppendArray → HostKind → Bool
  | flat e _, kind => e.hostKind = kind
  | objects cls _, kind => cls = kind && !kind.isPrimitive

/-- The column of the rows. -/
def build (type : LogicalType) (options : MarshalOptions) : AppendArray → Except MarshalError Column
  | flat e values => Column.ofArray e type options values
  | objects _ rows => Column.build type options rows

end AppendArray

/-- The declared type of a stored column. -/
def TableColumn.logicalType (c : TableColumn) : Except SessionError LogicalType :=
  liftMarshal (LogicalType.ofSql c.sqlType c.digits c.scale)

/-- A look at a table that has to exist. -/
def Connection.table {σ : Type} [StorageEngine σ] (c : Connection) (schema name : String) :
    SessionM σ Table := do
  let _ ← c.withSession fun id => StorageEngine.table id schema name
  return ⟨c, schema, name⟩

namespace Table

variable {σ : Type} [StorageEngine σ]

/-- The columns, in order. -/
def columns (t : Table) : SessionM σ (List TableColumn) :=
  t.connection.withSession fun id => StorageEngine.table id t.schema t.name

/-- The declared types of the columns. -/
def logicalTypes (t : Table) : SessionM σ (List LogicalType) := do
  (← t.columns).mapM fun c => (c.logicalType : Except SessionError LogicalType)

/-- The column at a position, from 1. Nothing is at position 0, and the engine is not asked for it. -/
def columnByIndex (t : Table) : Nat → SessionM σ (Option TableColumn)
  | 0 => return none
  | position + 1 => return (← t.columns)[position]?

/-- The first column of a name. -/
def columnByName (t : Table) (name : String) : SessionM σ (Option TableColumn) := do
  return (← t.columns).find? fun c => c.name = name

/-- The column of an array that stands at a position, from 0, among arrays of `rows` rows. -/
def buildColumn (options : MarshalOptions) (rows position : Nat) (column : TableColumn)
    (array : AppendArray) : Except SessionError Column := do
  if array.length ≠ rows then throw .inconsistentRows
  let type ← column.logicalType
  if !array.fits type.hostKind then
    throw (.wrongArrayClass (position + 1) type.hostKind.arrayLabel)
  liftMarshal (array.build type options)

/-- The columns of the arrays, one for each column of a table. -/
def buildColumns (options : MarshalOptions) (rows : Nat) (columns : List TableColumn)
    (arrays : List AppendArray) : Except SessionError (List Column) :=
  (columns.zip arrays).zipIdx.mapM fun ((column, array), position) =>
    buildColumn options rows position column array

/-- Add rows, one array for each column, and give their number. -/
def append (t : Table) (arrays : List AppendArray) : SessionM σ Nat := do
  let columns ← t.columns
  if arrays.length ≠ columns.length then
    throw (.wrongArrayCount t.schema t.name columns.length arrays.length)
  let rows := (arrays.head?.map AppendArray.length).getD 0
  let built ← (buildColumns t.connection.options rows columns arrays : Except SessionError _)
  t.connection.withSession fun id => StorageEngine.append id t.schema t.name built
  return rows

end Table

end ColumnBridge
