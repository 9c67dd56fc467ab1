import ColumnBridge.Binary
import ColumnBridge.Decimal

/-!
The values that an object host boxes.

* `HostKind`: one kind for each class of host objects, with `HostKind.all` as the order in which classes
  are looked up; `HostKind.all_getElem_index` says that `HostKind.index` is the position there;
* `HostValue`: what a host object holds. Dates and times hold milliseconds of the host clock, and row
  identifiers travel as strings.
-/

namespace ColumnBridge

attribute [local instance (high)] ByteArray.instDecidableEq

/-- A class of host objects. -/
inductive HostKind
  | boolean
  | byte
  | short
  | integer
  | long
  | float
  | double
  | date
  | time
  | timestamp
  | decimal
  | string
  | bytes
  deriving DecidableEq, Repr

namespace HostKind

/-- All kinds, in the order in which their classes are looked up. -/
def all : List HostKind :=
  [boolean, byte, short, integer, long, float, double, date, time, timestamp, decimal, string, bytes]

/-- The position of a kind in `all`. -/
def index : HostKind → Nat
  | boolean => 0
  | byte => 1
  | short => 2
  | integer => 3
  | long => 4
  | float => 5
  | double => 6
  | date => 7
  | time => 8
  | timestamp => 9
  | decimal => 10
  | string => 11
  | bytes => 12

theorem all_getElem_index (k : HostKind) : all[k.index]? = some k := by
  cases k <;> rfl

/-- The name of a kind. -/
def name : HostKind → String
  | boolean => "Boolean"
  | byte => "Byte"
  | short => "Short"
  | integer => "Integer"
  | long => "Long"
  | float => "Float"
  | double => "Double"
  | date => "Date"
  | time => "Time"
  | timestamp => "Timestamp"
  | decimal => "Decimal"
  | string => "String"
  | bytes => "Bytes"

/-- The name under which the host finds the class. -/
def className : HostKind → String
  | boolean => "java/lang/Boolean"
  | byte => "java/lang/Byte"
  | short => "java/lang/Short"
  | integer => "java/lang/Integer"
  | long => "java/lang/Long"
  | float => "java/lang/Float"
  | double => "java/lang/Double"
  | date => "java/sql/Date"
  | time => "java/sql/Time"
  | timestamp => "java/sql/Timestamp"
  | decimal => "java/math/BigDecimal"
  | string => "java/lang/String"
  | bytes => "[B"

/-- The name of the elements in messages about arrays. -/
def arrayLabel : HostKind → String
  | boolean => "boolean"
  | byte => "byte"
  | short => "short"
  | integer => "int"
  | long => "long"
  | float => "float"
  | double => "double"
  | date => "java.sql.Date"
  | time => "java.sql.Time"
  | timestamp => "java.sql.Timestamp"
  | decimal => "java.math.BigDecimal"
  | string => "java.lang.String"
  | bytes => "byte[]"

/-- The kinds whose values also come in flat arrays. -/
def isPrimitive : HostKind → Bool
  | boolean | byte | short | integer | long | float | double => true
  | _ => false

end HostKind

/-- What a host object holds. -/
inductive HostValue
  | boolean (value : Bool)
  | byte (value : Int8)
  | short (value : Int16)
  | integer (value : Int32)
  | long (value : Int64)
  | float (value : Binary .single)
  | double (value : Binary .double)
  | date (ms : Int64)
  | time (ms : Int64)
  | timestamp (ms : Int64)
  | decimal (value : Decimal)
  | string (value : String)
  | bytes (value : ByteArray)
  deriving DecidableEq

namespace HostValue

/-- The class that boxes a value. -/
def kind : HostValue → HostKind
  | boolean _ => .boolean
  | byte _ => .byte
  | short _ => .short
  | integer _ => .integer
  | long _ => .long
  | float _ => .float
  | double _ => .double
  | date _ => .date
  | time _ => .time
  | timestamp _ => .timestamp
  | decimal _ => .decimal
  | string _ => .string
  | bytes _ => .bytes

end HostValue

end ColumnBridge
