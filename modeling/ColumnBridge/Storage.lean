import ColumnBridge.Binary
import ColumnBridge.Heap
import ColumnBridge.IntWidth
import ColumnBridge.RowId

/-!
How the rows of a column are stored.

A column stores either fixed-width slots of one kind, each with a reserved nil, or offsets into a heap.

* `SlotKind`, `SlotKind.Slot`: the kinds of slots and their contents, with the nil and the order of each;
* `StorageKind`: slots of one kind, or heap entries;
* `StorageKind.Contents`: the stored rows, and `StorageKind.Cell`: what one row holds;
* `StorageKind.cell`, `StorageKind.ofCells`: reading one row, and storing rows one after the other.
-/

namespace ColumnBridge

/-! ### Slots -/

/-- A kind of fixed-width slots. -/
inductive SlotKind
  | int (width : IntWidth)
  | float (format : FloatFormat)
  | rowId
  deriving DecidableEq, Repr

namespace SlotKind

/-- What a slot holds. -/
@[reducible] def Slot : SlotKind → Type
  | int w => w.Carrier
  | float f => Binary f
  | rowId => RowId

/-- The slot that stands for nil: the smallest integer, a NaN, or the reserved row identifier. -/
def nil : (k : SlotKind) → k.Slot
  | int w => w.ofInt w.least
  | float f => Binary.nan f
  | rowId => RowId.nil

/-- Whether a slot is nil. Every NaN is. -/
def isNil : (k : SlotKind) → k.Slot → Bool
  | int w, x => w.toInt x = w.least
  | float _, x => Binary.isNaN x
  | rowId, x => x = RowId.nil

/-- The order of slots by the numbers they stand for. -/
def compare : (k : SlotKind) → k.Slot → k.Slot → Ordering
  | int w, x, y => Ord.compare (w.toInt x) (w.toInt y)
  | float _, x, y => Binary.compare x y
  | rowId, x, y => Ord.compare (x : RowId).toNat (y : RowId).toNat

end SlotKind

/-! ### Storage kinds -/

/-- How the rows of a column are stored. -/
inductive StorageKind
  | fixed (kind : SlotKind)
  | heap
  deriving DecidableEq, Repr

namespace StorageKind

/-- The octets of one fixed-width slot. -/
def width : StorageKind → Nat
  | fixed (.int .w8) => 1
  | fixed (.int .w16) => 2
  | fixed (.int .w32) => 4
  | fixed (.int .w64) => 8
  | fixed (.float .single) => 4
  | fixed (.float .double) => 8
  | fixed .rowId => 8
  | heap => 8

/-- The name of a storage kind in messages. -/
def name : StorageKind → String
  | fixed (.int .w8) => "int8"
  | fixed (.int .w16) => "int16"
  | fixed (.int .w32) => "int32"
  | fixed (.int .w64) => "int64"
  | fixed (.float .single) => "float32"
  | fixed (.float .double) => "float64"
  | fixed .rowId => "oid"
  | heap => "heap"

/-- What one row holds. -/
@[reducible] def Cell : StorageKind → Type
  | fixed k => k.Slot
  | heap => HeapEntry

/-- Offsets into a heap, one for each row. -/
structure HeapRows where
  offsets : Array UInt64
  heap : Heap
  deriving DecidableEq

/-- The stored rows. -/
@[reducible] def Contents : StorageKind → Type
  | fixed k => Array k.Slot
  | heap => HeapRows

/-- The order of cells: of slots by their numbers, of heap entries by their payloads. -/
def compareCells : (s : StorageKind) → s.Cell → s.Cell → Ordering
  | fixed k, x, y => k.compare x y
  | heap, x, y => HeapEntry.compareBytes x y

/-! ### Rows -/

/-- The number of rows. -/
def rowCount : (s : StorageKind) → s.Contents → Nat
  | fixed _, slots => Array.size slots
  | heap, rows => rows.offsets.size

/-- The largest row number; sums beyond it are reported as it. -/
def maxRow : Nat := UInt64.size - 1

/-- The failure of asking for a row that is not there. -/
def noSuchRow (row count : Nat) : MarshalError := .rowOutOfRange row (min (row + 1) maxRow) count

/-- What a row holds. -/
def cell : (s : StorageKind) → s.Contents → Nat → Except MarshalError s.Cell
  | fixed k, slots, row =>
    match (slots : Array k.Slot)[row]? with
    | some x => .ok x
    | none => .error (noSuchRow row (Array.size slots))
  | heap, rows, row =>
    match rows.offsets[row]? with
    | some offset => rows.heap.entry offset.toNat
    | none => .error (noSuchRow row rows.offsets.size)

/-- No rows in a heap. -/
def HeapRows.empty : HeapRows := ⟨#[], .empty⟩

/-- One more row in a heap. -/
def HeapRows.push (rows : HeapRows) (e : HeapEntry) : HeapRows :=
  ⟨rows.offsets.push rows.heap.size.toUInt64, rows.heap.push e⟩

/-- The stored form of a list of rows. -/
def ofCells : (s : StorageKind) → List s.Cell → s.Contents
  | fixed _, cells => List.toArray cells
  | heap, cells => List.foldl HeapRows.push .empty cells

end StorageKind

/-- The stored rows of any kind of storage. -/
structure ColumnData where
  storage : StorageKind
  contents : storage.Contents

/-- The number of rows. -/
def ColumnData.rowCount (d : ColumnData) : Nat := d.storage.rowCount d.contents

end ColumnBridge
