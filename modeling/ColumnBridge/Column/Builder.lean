import ColumnBridge.Column.Build
import ColumnBridge.Host.ObjectHost

/-!
Columns that grow row by row.

A builder goes over its rows once. It turns each into a cell, shows the cell to the tracker of the flags
and puts it behind the cells that it has. A row that fails ends the pass, and those behind it are not
looked at.

* `CellWriter`, `LogicalType.writer`: the storage that the builder of a type fills, and its cells;
* `ColumnBuilder`: the rows so far, with `pushSlot` and `pushEntry` for one more;
* `ColumnBuilder.takeRows`: a pass, with the rows that it did not come to;
* `Column.buildForward`, `Column.ofArrayForward`: the column that a pass leaves behind;
* `ObjectHost.unboxed`, `Column.ofObjects`: the rows of host objects, and their column.
-/

namespace ColumnBridge

/-! ### Comparing entries of a heap -/

namespace Heap

/-- The payload at an offset; where there is none, no octets. -/
def payload (h : Heap) (offset : UInt64) : ByteArray :=
  match h.entry offset.toNat with
  | .ok (.payload b) => b
  | _ => .empty

/-- The order of the payloads at two offsets. -/
def compareAt (h : Heap) (a b : UInt64) : Ordering :=
  compare (h.payload a).data.toList (h.payload b).data.toList

end Heap

/-! ### Cells of host values -/

/-- What a builder stores for host values, and in which storage. -/
structure CellWriter where
  storage : StorageKind
  write : HostValue → Except MarshalError storage.Cell

namespace LogicalType

/-- The unscaled value of a host decimal. -/
def scaled (options : MarshalOptions) (spec : DecimalSpec) : HostValue → Except MarshalError Int
  | .decimal d => d.fit spec options.rounding
  | v => .error ((decimal spec).wrongKind v)

/-- Decimals in integers of a width. -/
def decimalWriter (options : MarshalOptions) (spec : DecimalSpec) (w : IntWidth) : CellWriter where
  storage := .fixed (.int w)
  write v := do
    match w.ofInt? (← scaled options spec v) with
    | some x => .ok x
    | none => .error spec.overflow

/-- What the builder of a type stores. -/
def writer (options : MarshalOptions) : LogicalType → CellWriter
  | boolean => ⟨.fixed (.int .w8), boolean.encodeValue options⟩
  | tinyInt => ⟨.fixed (.int .w8), tinyInt.encodeValue options⟩
  | smallInt => ⟨.fixed (.int .w16), smallInt.encodeValue options⟩
  | int => ⟨.fixed (.int .w32), int.encodeValue options⟩
  | bigInt => ⟨.fixed (.int .w64), bigInt.encodeValue options⟩
  | real => ⟨.fixed (.float .single), real.encodeValue options⟩
  | double => ⟨.fixed (.float .double), double.encodeValue options⟩
  | oid => ⟨.fixed .rowId, oid.encodeValue options⟩
  | date => ⟨.fixed (.int .w32), date.encodeValue options⟩
  | time => ⟨.fixed (.int .w64), time.encodeValue options⟩
  | timestamp => ⟨.fixed (.int .w64), timestamp.encodeValue options⟩
  | decimal spec =>
    match (decimal spec).storage with
    | .fixed (.int .w8) => decimalWriter options spec .w8
    | .fixed (.int .w16) => decimalWriter options spec .w16
    | .fixed (.int .w32) => decimalWriter options spec .w32
    | _ => decimalWriter options spec .w64
  | string => ⟨.heap, string.encodeValue options⟩
  | blob => ⟨.heap, blob.encodeValue options⟩

end LogicalType

/-! ### One row after the other -/

/-- The rows that a builder has, and what is known about them. -/
structure ColumnBuilder (s : StorageKind) where
  contents : s.Contents
  tracker : SortTracker

namespace ColumnBuilder

/-- No rows yet. -/
def start (s : StorageKind) (ordering : NullOrdering) : ColumnBuilder s :=
  ⟨s.ofCells [], .start ordering⟩

/-- One more slot, which is compared with those that are there. -/
def pushSlot {k : SlotKind} (b : ColumnBuilder (.fixed k)) (row : Nat) (slot : k.Slot) :
    ColumnBuilder (.fixed k) :=
  let slots : Array k.Slot := b.contents
  ⟨slots.push slot,
    b.tracker.observe row (k.isNil slot) (compareWithRow slots k.compare slot)⟩

/-- One more entry. It is in the heap before it is compared with the rows that are there. -/
def pushEntry (b : ColumnBuilder .heap) (isNil : Bool) (e : HeapEntry) : ColumnBuilder .heap :=
  let rows : StorageKind.HeapRows := b.contents
  let offset := rows.heap.size.toUInt64
  let heap := rows.heap.push e
  ⟨⟨rows.offsets.push offset, heap⟩,
    b.tracker.observe rows.offsets.size isNil (compareWithRow rows.offsets heap.compareAt offset)⟩

/-- One more cell. A slot says by itself whether it is nil; an entry is nil if it stands for no value. -/
def push : {s : StorageKind} → ColumnBuilder s → (isNone : Bool) → s.Cell → ColumnBuilder s
  | .fixed _, b, _, slot => b.pushSlot (Array.size b.contents) slot
  | .heap, b, isNone, e => b.pushEntry isNone e

/-- Take in a host value, or none, whose cell is `mark` in a heap. -/
def takeValue {s : StorageKind} (mark : HeapEntry) (write : HostValue → Except MarshalError s.Cell)
    (b : ColumnBuilder s) : Option HostValue → Except MarshalError (ColumnBuilder s)
  | some v => (write v).map (b.push false)
  | none => .ok (b.push true (s.nilCell mark))

/-- Take in rows one after the other, up to the first that fails. The rows behind it are left. -/
def takeRows {s : StorageKind} (mark : HeapEntry) (write : HostValue → Except MarshalError s.Cell)
    (b : ColumnBuilder s) : List (Except MarshalError (Option HostValue)) →
      Except MarshalError (ColumnBuilder s) × List (Except MarshalError (Option HostValue))
  | [] => (.ok b, [])
  | row :: rows =>
    match row >>= b.takeValue mark write with
    | .ok b => b.takeRows mark write rows
    | .error failure => (.error failure, rows)

/-- Take in an element of an array, with its number. -/
def takeElement {e : Element} (b : ColumnBuilder (.fixed e.slotKind)) (x : e.Carrier × Nat) :
    ColumnBuilder (.fixed e.slotKind) :=
  b.pushSlot x.2 (e.save x.1)

/-- The column of the rows, if they make one. -/
def finish {s : StorageKind} (b : ColumnBuilder s) (type : LogicalType) :
    Except MarshalError Column :=
  Column.make type ⟨s, b.contents⟩ b.tracker.flags

end ColumnBuilder

/-- The rows of host objects. Each object is unboxed for itself, and that may fail. -/
def ObjectHost.unboxed (host : ObjectHost) (objects : List (Option HostValue)) :
    List (Except MarshalError (Option HostValue)) :=
  objects.map fun
    | some object => (host.extract object).map some
    | none => .ok none

namespace Column

/-- Build a column with a given writer. -/
def buildWith (w : CellWriter) (type : LogicalType) (options : MarshalOptions)
    (rows : List (Except MarshalError (Option HostValue))) :
    Except MarshalError Column × List (Except MarshalError (Option HostValue)) :=
  let pass := (ColumnBuilder.start w.storage options.nullOrdering).takeRows type.nilEntry w.write rows
  (pass.1 >>= (·.finish type), pass.2)

/-- The column of a sequence of host values in one pass, and the rows that the pass did not come to. -/
def buildForward (type : LogicalType) (options : MarshalOptions)
    (rows : List (Except MarshalError (Option HostValue))) :
    Except MarshalError Column × List (Except MarshalError (Option HostValue)) :=
  buildWith (type.writer options) type options rows

/-- The column of a flat array in one pass. -/
def ofArrayForward (e : Element) (type : LogicalType) (options : MarshalOptions)
    (values : Array e.Carrier) : Except MarshalError Column :=
  if type = e.type then
    (values.toList.zipIdx.foldl ColumnBuilder.takeElement
      (.start (.fixed e.slotKind) options.nullOrdering)).finish type
  else .error (e.mismatch type)

/-- The column of host objects, none standing for nil. -/
def ofObjects (host : ObjectHost) (type : LogicalType) (options : MarshalOptions)
    (objects : List (Option HostValue)) : Except MarshalError Column :=
  build type options (host.unboxed objects)

end Column

end ColumnBridge
