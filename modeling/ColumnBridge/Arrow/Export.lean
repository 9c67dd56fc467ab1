import ColumnBridge.Arrow.Type
import ColumnBridge.Column
import ColumnBridge.RowCodec

/-!
Exporting columns in the Arrow layout.

* `LogicalType.arrowEntry`: the Arrow value of a row, none for nil;
* `Column.toArrow`: the array of a column;
* `RecordBatch.ofColumns`: a batch of named columns, with the two conditions under which Arrow refuses
  one.
-/

namespace ColumnBridge

attribute [local instance (high)] ByteArray.instDecidableEq

/-- A value of an Arrow array. -/
inductive ArrowValue
  | boolean (value : Bool)
  /-- A value of one of the integer, date, time and decimal types. -/
  | int (value : Int)
  | float32 (value : Binary .single)
  | float64 (value : Binary .double)
  | utf8 (value : String)
  | binary (value : ByteArray)
  deriving DecidableEq

/-- An Arrow array, none standing for null. -/
structure ArrowArray where
  type : ArrowType
  values : List (Option ArrowValue)
  deriving DecidableEq

/-- The number of nulls. -/
def ArrowArray.nullCount (a : ArrowArray) : Nat := a.values.countP Option.isNone

namespace LogicalType

/-- The Arrow value of a cell that is not nil. -/
def arrowValue : (t : LogicalType) → t.storage.Cell → Except MarshalError ArrowValue
  | boolean, x => .ok (.boolean ((x : Int8) != 0))
  | tinyInt, x => .ok (.int (Int8.toInt x))
  | smallInt, x => .ok (.int (Int16.toInt x))
  | int, x => .ok (.int (Int32.toInt x))
  | bigInt, x => .ok (.int (Int64.toInt x))
  | real, x => .ok (.float32 x)
  | double, x => .ok (.float64 x)
  | oid, x => .ok (.int (x : RowId).toNat)
  | date, x => .ok (.int (Int32.toInt x))
  | time, x => .ok (.int (Int64.toInt x))
  | timestamp, x => .ok (.int (Int64.toInt x))
  | decimal spec, x => .ok (.int (spec.width.toInt x))
  | string, .payload b => (decodeText b).map .utf8
  | string, .nilBlob => .error (.valueConversion "string" "blob nil in string heap")
  | blob, e => .ok (.binary e.bytes)

/-- The Arrow value of a cell, none for nil. -/
def arrowEntry (t : LogicalType) (c : t.storage.Cell) : Except MarshalError (Option ArrowValue) :=
  if t.isNilCell c then .ok none else (t.arrowValue c).map some

end LogicalType

/-- The Arrow array of a column. -/
def Column.toArrow (c : Column) : Except MarshalError ArrowArray := do
  let values ← (List.range c.count).mapM fun row => do c.type.arrowEntry (← c.cell row)
  return ⟨c.type.arrowType, values⟩

/-- Arrow arrays of one length under their fields. -/
structure RecordBatch where
  rows : Nat
  columns : List (ArrowField × ArrowArray)
  deriving DecidableEq

namespace RecordBatch

/-- The failure of arguments that make no batch. -/
def invalid (message : String) : MarshalError := .arrow s!"Invalid argument error: {message}"

/-- Put arrays together: a field that is not nullable has no null, and all arrays are of one length. -/
def make (columns : List (ArrowField × ArrowArray)) : Except MarshalError RecordBatch :=
  let rows := (columns.head?.map fun c => c.2.values.length).getD 0
  match columns.find? fun c => !c.1.nullable && 0 < c.2.nullCount with
  | some (field, _) =>
    .error (invalid s!"Column '{field.name}' is declared as non-nullable but contains null values")
  | none =>
    if columns.all fun c => c.2.values.length == rows then .ok ⟨rows, columns⟩
    else .error (invalid "all columns in a record batch must have the same length")

/-- The batch of named columns. A column without nil is declared as not nullable. -/
def ofColumns (columns : List (String × Column)) : Except MarshalError RecordBatch := do
  let arrays ← columns.mapM fun (name, c) => do
    return (c.type.field name c.flags.nullable, ← c.toArrow)
  make arrays

end RecordBatch

end ColumnBridge
