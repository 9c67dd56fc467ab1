import ColumnBridge.Decimal.Spec
import ColumnBridge.Host.Value
import ColumnBridge.Storage

/-!
The declared types of columns.

* `LogicalType`, and `LogicalType.ofSql`, which maps the type names of the engine by their beginnings;
* `LogicalType.storage`: how the rows of a type are stored;
* `LogicalType.hostKind`: the host objects that hold its values;
* `LogicalType.nilFamily`, `sqlName`, `typeId`, and the three families of types.
-/

namespace ColumnBridge

/-- The declared type of a column. -/
inductive LogicalType
  | boolean
  | tinyInt
  | smallInt
  | int
  | bigInt
  | real
  | double
  /-- Row identifiers. -/
  | oid
  /-- Days since 1970-01-01. -/
  | date
  /-- Microseconds since midnight. -/
  | time
  /-- Microseconds since 1970-01-01. -/
  | timestamp
  /-- Integers scaled by a power of ten. -/
  | decimal (spec : DecimalSpec)
  | string
  | blob
  deriving DecidableEq, Repr

/-- How the rows of a type say nil. -/
inductive NilFamily
  /-- By the reserved slot of their width. -/
  | fixed
  /-- By the reserved row identifier. -/
  | rowId
  /-- By the payload of the nil string. -/
  | string
  /-- By the mark of a nil blob. -/
  | blob
  deriving DecidableEq, Repr

/-- The name of a family. -/
def NilFamily.name : NilFamily → String
  | fixed => "Fixed"
  | rowId => "RowId"
  | string => "String"
  | blob => "Blob"

namespace LogicalType

/-- The type names of the engine, by the beginnings that decide. The first that fits counts: a
timestamp is looked for before a time. -/
def sqlBeginnings : List (String × LogicalType) :=
  [("boolean", boolean), ("tinyint", tinyInt), ("smallint", smallInt), ("int", int),
    ("month_interval", int), ("bigint", bigInt), ("sec_interval", bigInt), ("real", real),
    ("double", double), ("char", string), ("varchar", string), ("clob", string), ("date", date),
    ("timestamp", timestamp), ("time", time), ("blob", blob), ("oid", oid)]

/-- The largest number of digits, or scale, that a type declaration can carry. -/
def maxParameter : Nat := 255

/-- Whether a name begins with a text. -/
def beginsWith (name beginning : String) : Bool := beginning.toList.isPrefixOf name.toList

/-- The type that the engine names; digits and scale count for decimals alone. -/
def ofSql (name : String) (digits scale : Nat) : Except MarshalError LogicalType :=
  match sqlBeginnings.find? fun entry => beginsWith name entry.1 with
  | some (_, type) => .ok type
  | none =>
    if !beginsWith name "decimal" then .error (.unknownType name)
    else if maxParameter < digits ∨ maxParameter < scale then
      .error (.unknownType s!"{name}({digits},{scale})")
    else (DecimalSpec.make digits scale).map decimal

/-- How the rows of a type are stored. -/
@[reducible] def storage : LogicalType → StorageKind
  | boolean => .fixed (.int .w8)
  | tinyInt => .fixed (.int .w8)
  | smallInt => .fixed (.int .w16)
  | int => .fixed (.int .w32)
  | bigInt => .fixed (.int .w64)
  | real => .fixed (.float .single)
  | double => .fixed (.float .double)
  | oid => .fixed .rowId
  | date => .fixed (.int .w32)
  | time => .fixed (.int .w64)
  | timestamp => .fixed (.int .w64)
  | decimal spec => .fixed (.int spec.width)
  | string => .heap
  | blob => .heap

/-- The storage that the type table lists: decimals of any precision count as the widest. -/
def listedStorage : LogicalType → StorageKind
  | decimal _ => .fixed (.int .w64)
  | type => type.storage

/-- The host objects that hold the values of a type. -/
def hostKind : LogicalType → HostKind
  | boolean => .boolean
  | tinyInt => .byte
  | smallInt => .short
  | int => .integer
  | bigInt => .long
  | real => .float
  | double => .double
  | oid => .string
  | date => .date
  | time => .time
  | timestamp => .timestamp
  | decimal _ => .decimal
  | string => .string
  | blob => .bytes

/-- How the rows of a type say nil. -/
def nilFamily : LogicalType → NilFamily
  | oid => .rowId
  | string => .string
  | blob => .blob
  | _ => .fixed

/-- The canonical name, without parameters. -/
def sqlName : LogicalType → String
  | boolean => "boolean"
  | tinyInt => "tinyint"
  | smallInt => "smallint"
  | int => "int"
  | bigInt => "bigint"
  | real => "real"
  | double => "double"
  | oid => "oid"
  | date => "date"
  | time => "time"
  | timestamp => "timestamp"
  | decimal _ => "decimal"
  | string => "varchar"
  | blob => "blob"

/-- The number under which result sets report a type. -/
def typeId : LogicalType → Nat
  | boolean => 1
  | tinyInt => 2
  | smallInt => 3
  | int => 4
  | bigInt => 5
  | real => 6
  | double => 7
  | string => 8
  | date => 9
  | timestamp => 10
  | time => 11
  | blob => 12
  | decimal _ => 13
  | oid => 14

/-- The name with its parameters. -/
def display : LogicalType → String
  | decimal spec => s!"decimal({spec.precision},{spec.scale})"
  | type => type.sqlName

/-- The integers and floats. -/
def isNumeric : LogicalType → Bool
  | tinyInt | smallInt | int | bigInt | real | double => true
  | _ => false

/-- Dates, times and timestamps. -/
def isTemporal : LogicalType → Bool
  | date | time | timestamp => true
  | _ => false

/-- The types whose values lie in a heap. -/
def isVariableLength : LogicalType → Bool
  | string | blob => true
  | _ => false

end LogicalType

end ColumnBridge
