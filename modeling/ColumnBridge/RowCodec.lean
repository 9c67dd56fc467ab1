import ColumnBridge.Decimal.Numeral
import ColumnBridge.LogicalType
import ColumnBridge.MarshalOptions
import ColumnBridge.Text.Utf8

/-!
The rows of each type as host values.

* `LogicalType.encode`: what a row stores for a host value, or for none;
* `LogicalType.isNilCell`: whether a row is nil;
* `LogicalType.decode`: the host value of a row, whether or not it is nil;
* `LogicalType.read`: the host value of a row, or none.
-/

namespace ColumnBridge

namespace StorageKind

/-- The cell that stands for nil; `mark` does so in a heap. -/
def nilCell (mark : HeapEntry) : (s : StorageKind) → s.Cell
  | fixed k => k.nil
  | heap => mark

/-- Whether a cell is nil; `mark` is in a heap. -/
def isNilCell (mark : HeapEntry) : (s : StorageKind) → s.Cell → Bool
  | fixed k, x => k.isNil x
  | heap, e => decide ((e : HeapEntry) = mark)

end StorageKind

namespace LogicalType

/-! ### Nil -/

/-- The heap entry that stands for nil. -/
def nilEntry : LogicalType → HeapEntry
  | blob => .nilBlob
  | _ => .nilString

/-- The cell that stands for nil. -/
def nilCell (t : LogicalType) : t.storage.Cell := t.storage.nilCell t.nilEntry

/-- Whether a cell is nil. -/
def isNilCell (t : LogicalType) (c : t.storage.Cell) : Bool := t.storage.isNilCell t.nilEntry c

/-! ### Storing -/

/-- The failure of a value whose kind is not that of the type. -/
def wrongKind (t : LogicalType) (v : HostValue) : MarshalError :=
  .typeMismatch t.hostKind.className v.kind.className

/-- What a row stores for a host value. -/
def encodeValue (options : MarshalOptions) :
    (t : LogicalType) → HostValue → Except MarshalError t.storage.Cell
  | boolean, .boolean b => .ok (if b then (1 : Int8) else 0)
  | tinyInt, .byte x => .ok x
  | smallInt, .short x => .ok x
  | int, .integer x => .ok x
  | bigInt, .long x => .ok x
  | real, .float x => .ok x
  | double, .double x => .ok x
  | oid, .string s => (RowId.parse s).map fun id => id.getD RowId.nil
  | date, .date ms => HostClock.msToDate ms
  | time, .time ms => HostClock.msToTime ms options.timeBias
  | timestamp, .timestamp ms => HostClock.msToTimestamp ms options.timeBias
  | decimal spec, .decimal d => do
    let unscaled ← d.fit spec options.rounding
    match spec.width.ofInt? unscaled with
    | some x => .ok x
    | none => .error spec.overflow
  | string, .string s => .ok (.payload s.toByteArray)
  | blob, .bytes b => .ok (.payload b)
  | t, v => .error (t.wrongKind v)

/-- What a row stores for a host value, or for none. -/
def encode (options : MarshalOptions) (t : LogicalType) :
    Option HostValue → Except MarshalError t.storage.Cell
  | some v => t.encodeValue options v
  | none => .ok t.nilCell

/-! ### Fetching -/

/-- The text of a payload. -/
def decodeText (bytes : ByteArray) : Except MarshalError String :=
  match Text.Utf8.decode bytes with
  | .ok s => .ok s
  | .error b => .error (.valueConversion "string" b.message)

/-- The failure of a nil blob where a payload is due. -/
def nilBlobFound : MarshalError := .valueConversion "blob" "nil entry"

/-- The host value of a cell, whether or not it is nil. -/
def decode (options : MarshalOptions) :
    (t : LogicalType) → t.storage.Cell → Except (Halt MarshalError) HostValue
  | boolean, x => .ok (.boolean ((x : Int8) != 0))
  | tinyInt, x => .ok (.byte x)
  | smallInt, x => .ok (.short x)
  | int, x => .ok (.integer x)
  | bigInt, x => .ok (.long x)
  | real, x => .ok (.float x)
  | double, x => .ok (.double x)
  | oid, x => .ok (.string (RowId.render x))
  | date, x => .ok (.date (HostClock.dateToMs x))
  | time, x => (Halt.unlessOverflow (HostClock.timeToMs x options.timeBias)).map .time
  | timestamp, x => (Halt.unlessOverflow (HostClock.timestampToMs x options.timeBias)).map .timestamp
  | decimal spec, x => (Halt.lift (Decimal.ofStored (spec.width.toInt x) spec.scale)).map .decimal
  | string, .payload b => (Halt.lift (decodeText b)).map .string
  | string, .nilBlob => .error (.failure nilBlobFound)
  | blob, .payload b => .ok (.bytes b)
  | blob, .nilBlob => .error (.failure nilBlobFound)

/-- The host value of a cell, or none. -/
def read (options : MarshalOptions) (t : LogicalType) (c : t.storage.Cell) :
    Except (Halt MarshalError) (Option HostValue) :=
  if t.isNilCell c then .ok none else (t.decode options c).map some

end LogicalType

end ColumnBridge
