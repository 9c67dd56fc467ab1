import ColumnBridge.LogicalType
import ColumnBridge.Sortedness

/-!
Columns: a declared type, rows stored as the type wants them, and flags about the rows.

* `Column`: the storage fits the type, and the column is either nullable or without nil;
* `Column.make`: the check of both on parts that come from elsewhere;
* `Column.cell`, `Column.window`, `Column.slots`: one row, a range of rows, and all slots of a kind.
-/

namespace ColumnBridge

/-- A column. -/
structure Column where
  type : LogicalType
  contents : type.storage.Contents
  flags : ColumnFlags
  nullable_eq : flags.nullable = !flags.nonNil

/-- The rows from `first` to just before `last`. -/
structure RowRange where
  first : Nat
  last : Nat
  deriving DecidableEq, Repr

/-- The row numbers of a range, in order. -/
def RowRange.toList (r : RowRange) : List Nat := List.range' r.first (r.last - r.first)

namespace Column

/-- Check that storage and flags make a column of the type. -/
def make (type : LogicalType) (data : ColumnData) (flags : ColumnFlags) :
    Except MarshalError Column :=
  if h : data.storage = type.storage then
    if hf : flags.nullable = !flags.nonNil then .ok ⟨type, h ▸ data.contents, flags, hf⟩
    else
      .error (.typeMismatch "exactly one of nullable and non-nil"
        s!"nullable={flags.nullable} non_nil={flags.nonNil}")
  else .error (.typeMismatch type.storage.name data.storage.name)

/-- The stored rows. -/
def data (c : Column) : ColumnData := ⟨c.type.storage, c.contents⟩

/-- The number of rows. -/
def count (c : Column) : Nat := c.type.storage.rowCount c.contents

/-- What a row holds. -/
def cell (c : Column) (row : Nat) : Except MarshalError c.type.storage.Cell :=
  c.type.storage.cell c.contents row

/-- The range of `size` rows from `first` on, if the column has them. -/
def window (c : Column) (first size : Nat) : Except MarshalError RowRange :=
  if first + size ≤ c.count then .ok ⟨first, first + size⟩
  else .error (.rowOutOfRange first (min (first + size) StorageKind.maxRow) c.count)

/-- The slots of stored rows, if they are slots of a kind. -/
def slotsOf (k : SlotKind) : (s : StorageKind) → s.Contents → Option (Array k.Slot)
  | .fixed l, slots => if h : l = k then some (h ▸ slots) else none
  | .heap, _ => none

/-- All slots, if they are of the given kind. -/
def slots (c : Column) (k : SlotKind) : Except MarshalError (Array k.Slot) :=
  match slotsOf k c.type.storage c.contents with
  | some slots => .ok slots
  | none => .error (.typeMismatch c.type.storage.name (StorageKind.fixed k).name)

end Column

end ColumnBridge
