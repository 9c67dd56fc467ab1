import ColumnBridge.Column
import ColumnBridge.RowCodec

/-!
Reading columns row by row.

* `Column.isNil`, `Column.decode`, `Column.read`: one row;
* `Column.probe`: which rows of a range are nil, and `Column.probeAll` for all rows.
-/

namespace ColumnBridge.Column

/-- Whether a row is nil. -/
def isNil (c : Column) (row : Nat) : Except MarshalError Bool :=
  (c.cell row).map c.type.isNilCell

/-- The host value of a row, whether or not it is nil. -/
def decode (c : Column) (options : MarshalOptions) (row : Nat) :
    Except (Halt MarshalError) HostValue := do
  c.type.decode options (← Halt.lift (c.cell row))

/-- The host value of a row, or none. -/
def read (c : Column) (options : MarshalOptions) (row : Nat) :
    Except (Halt MarshalError) (Option HostValue) := do
  c.type.read options (← Halt.lift (c.cell row))

/-- Which of the `size` rows from `first` on are nil. -/
def probe (c : Column) (first size : Nat) : Except MarshalError (List Bool) := do
  (← c.window first size).toList.mapM c.isNil

/-- Which rows are nil. -/
def probeAll (c : Column) : Except MarshalError (List Bool) := c.probe 0 c.count

end ColumnBridge.Column
