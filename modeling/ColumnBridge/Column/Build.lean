import ColumnBridge.Column
import ColumnBridge.Element
import ColumnBridge.RowCodec

/-!
Building columns from host values and from flat arrays.

* `Column.ofCells`: the column of given rows, with its flags;
* `Column.build`: the column of a sequence of host values any of which may be a failure;
* `Column.ofValues`: the same for values that are at hand;
* `Column.ofArray`: the column of a flat array.
-/

namespace ColumnBridge.Column

/-- The column of given rows. -/
def ofCells (type : LogicalType) (ordering : NullOrdering) (cells : List type.storage.Cell) :
    Column where
  type := type
  contents := type.storage.ofCells cells
  flags := .ofList ordering type.isNilCell type.storage.compareCells cells
  nullable_eq := by simp [ColumnFlags.ofList, SortTracker.flags]

/-- The column of a sequence of host values, none standing for nil. The first row that is a failure, or
that the type refuses, decides about the failure of the whole. -/
def build (type : LogicalType) (options : MarshalOptions)
    (rows : List (Except MarshalError (Option HostValue))) : Except MarshalError Column := do
  let cells ← rows.mapM fun row => do type.encode options (← row)
  return ofCells type options.nullOrdering cells

/-- The column of host values, none standing for nil. -/
def ofValues (type : LogicalType) (options : MarshalOptions) (values : List (Option HostValue)) :
    Except MarshalError Column :=
  build type options (values.map .ok)

/-- The column of a flat array, whose elements are stored as they are. -/
def ofArray (e : Element) (type : LogicalType) (options : MarshalOptions)
    (values : Array e.Carrier) : Except MarshalError Column :=
  if type = e.type then
    let cells : List (StorageKind.fixed e.slotKind).Cell := values.toList.map e.save
    .ok (ofCells e.type options.nullOrdering (e.storage_type ▸ cells))
  else .error (e.mismatch type)

end ColumnBridge.Column
