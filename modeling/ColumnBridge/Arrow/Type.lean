import ColumnBridge.LogicalType

/-!
The Arrow types of exported columns.

* `ArrowType`, with its display text, and `LogicalType.arrowType`;
* `ArrowField`: the description of a column in an exported batch.
-/

namespace ColumnBridge

/-- The types that an export uses. Times count microseconds. -/
inductive ArrowType
  | boolean
  | int8
  | int16
  | int32
  | int64
  | uint64
  | float32
  | float64
  | date32
  | time64
  | timestamp
  | decimal128 (precision scale : Nat)
  | utf8
  | binary
  deriving DecidableEq, Repr

/-- The name of a type with its parameters. -/
def ArrowType.display : ArrowType → String
  | boolean => "Boolean"
  | int8 => "Int8"
  | int16 => "Int16"
  | int32 => "Int32"
  | int64 => "Int64"
  | uint64 => "UInt64"
  | float32 => "Float32"
  | float64 => "Float64"
  | date32 => "Date32"
  | time64 => "Time64(us)"
  | timestamp => "Timestamp(us)"
  | decimal128 precision scale => s!"Decimal128({precision},{scale})"
  | utf8 => "Utf8"
  | binary => "Binary"

/-- The Arrow type of an exported column. -/
def LogicalType.arrowType : LogicalType → ArrowType
  | boolean => .boolean
  | tinyInt => .int8
  | smallInt => .int16
  | int => .int32
  | bigInt => .int64
  | real => .float32
  | double => .float64
  | oid => .uint64
  | date => .date32
  | time => .time64
  | timestamp => .timestamp
  | decimal spec => .decimal128 spec.precision spec.scale
  | string => .utf8
  | blob => .binary

/-- The description of a column in an exported batch. -/
structure ArrowField where
  name : String
  type : ArrowType
  nullable : Bool
  deriving DecidableEq, Repr

/-- The field of a column of a declared type. -/
def LogicalType.field (t : LogicalType) (name : String) (nullable : Bool) : ArrowField :=
  ⟨name, t.arrowType, nullable⟩

end ColumnBridge
