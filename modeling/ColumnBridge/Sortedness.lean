import ColumnBridge.MarshalOptions

/-!
Watching rows go by to say whether they are sorted and whether one of them is nil.

* `ColumnFlags`: what a column knows about its rows;
* `SortTracker`: one row of memory, and `SortTracker.observe`, which takes in the next row;
  `SortTracker.comparedRow` is the earlier row whose value decides, none if nil alone decides;
* `ColumnFlags.ofList`: the flags of a whole list of rows.
-/

namespace ColumnBridge

/-- What a column knows about its rows. -/
structure ColumnFlags where
  /-- Some row is nil. -/
  nullable : Bool
  /-- No row is nil. -/
  nonNil : Bool
  /-- No row is above a later one. -/
  sorted : Bool
  /-- No row is below a later one. -/
  reverseSorted : Bool
  deriving DecidableEq, Repr

/-- The flags of a column without rows. -/
def ColumnFlags.empty : ColumnFlags := ⟨false, true, true, true⟩

/-- What is known after some rows. -/
structure SortTracker where
  ordering : NullOrdering
  sorted : Bool := true
  reverseSorted : Bool := true
  hasNil : Bool := false
  /-- The last row that takes part in comparisons, and whether it is nil. -/
  previous : Option (Nat × Bool) := none
  deriving DecidableEq, Repr

namespace SortTracker

/-- Nothing is known yet. -/
def start (ordering : NullOrdering) : SortTracker := { ordering }

/-- A nil row that takes part in no comparison. -/
def leavesOut (t : SortTracker) (isNil : Bool) : Bool := isNil && t.ordering = .skip

/-- The row whose value the next row is compared with. Where one of the two is nil, no value is. -/
def comparedRow (t : SortTracker) (isNil : Bool) : Option Nat :=
  match t.previous with
  | some (row, false) => if isNil then none else some row
  | _ => none

/-- How the next row stands to the previous one; `compareWith` compares its value with that of an
earlier row. Nil is equal to nil and below every value. -/
def orderToPrevious (t : SortTracker) (isNil : Bool) (compareWith : Nat → Ordering) : Ordering :=
  match t.previous with
  | none => .eq
  | some (_, true) => if isNil then .eq else .gt
  | some (row, false) => if isNil then .lt else compareWith row

/-- Take in the next row. -/
def observe (t : SortTracker) (row : Nat) (isNil : Bool) (compareWith : Nat → Ordering) :
    SortTracker :=
  if t.leavesOut isNil then { t with hasNil := true }
  else
    let order := t.orderToPrevious isNil compareWith
    { t with
      hasNil := t.hasNil || isNil
      sorted := t.sorted && order != .lt
      reverseSorted := t.reverseSorted && order != .gt
      previous := some (row, isNil) }

/-- The flags of the rows taken in so far. -/
def flags (t : SortTracker) : ColumnFlags := ⟨t.hasNil, !t.hasNil, t.sorted, t.reverseSorted⟩

end SortTracker

/-- How a value stands to the one at an earlier row. -/
def compareWithRow {α : Type} (rows : Array α) (compare : α → α → Ordering) (x : α) (row : Nat) :
    Ordering :=
  match rows[row]? with
  | some y => compare x y
  | none => .eq

/-- Take in a row of a list, with its number. -/
def SortTracker.take {α : Type} (isNil : α → Bool) (compare : α → α → Ordering) (rows : Array α)
    (t : SortTracker) (x : α × Nat) : SortTracker :=
  t.observe x.2 (isNil x.1) (compareWithRow rows compare x.1)

/-- Take in a list of rows, one after the other. -/
def SortTracker.ofList {α : Type} (ordering : NullOrdering) (isNil : α → Bool)
    (compare : α → α → Ordering) (rows : List α) : SortTracker :=
  rows.zipIdx.foldl (take isNil compare rows.toArray) (.start ordering)

/-- The flags of a list of rows. -/
def ColumnFlags.ofList {α : Type} (ordering : NullOrdering) (isNil : α → Bool)
    (compare : α → α → Ordering) (rows : List α) : ColumnFlags :=
  (SortTracker.ofList ordering isNil compare rows).flags

end ColumnBridge
