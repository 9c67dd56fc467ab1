import ColumnBridge.Proofs.Flags.BinaryOrder
import ColumnBridge.Proofs.Flags.Tracker
import ColumnBridge.Proofs.Stored.StoreRead

/-!
The flags of built columns.

* `StorageKind.ValueLE`: the order of the values in rows, which knows nothing of nil: numbers by their
  size, floats by the number that the pattern stands for, payloads by their octets;
* `LogicalType.valueOrder`: the comparison that is made while a column is built belongs to that order;
* `Column.Built`: a column that comes from host values or from a flat array;
* `Column.nullable_iff_of_built`: such a column is marked as nullable exactly when it has a nil row;
* `Column.flags_of_built`: the flags of such a column say which rows are nil and how all pairs of rows
  stand to each other.
-/

namespace ColumnBridge

/-! ### The order of values -/

/-- The comparison of octets is the lexicographic order. -/
lemma isLE_compare_octets (a b : List UInt8) : (compare a b).isLE = true ↔ a ≤ b := by
  rw [List.compare_eq_compareLex]
  induction a generalizing b with
  | nil => exact iff_of_true List.isLE_compareLex_nil_left (List.nil_le b)
  | cons x xs ih =>
    cases b with
    | nil =>
      rw [List.compareLex_cons_nil]
      exact iff_of_false (by decide) fun h => h (List.nil_lt_cons x xs)
    | cons y ys =>
      rw [List.compareLex_cons_cons, List.cons_le_cons_iff, ← ih]
      cases h : compare x y with
      | lt => exact iff_of_true rfl (.inl (Std.compare_eq_lt.mp h))
      | eq =>
        have hxy : x = y := Std.compare_eq_iff_eq.mp h
        simp [hxy]
      | gt =>
        have hxy : y < x := Std.compare_eq_gt.mp h
        refine iff_of_false Bool.false_ne_true ?_
        rintro (hlt | ⟨rfl, -⟩)
        · exact UInt8.lt_asymm hlt hxy
        · exact UInt8.lt_irrefl _ hxy

namespace StorageKind

/-- The value in one row is at most the value in another. -/
def ValueLE : (s : StorageKind) → s.Cell → s.Cell → Prop
  | fixed (.int w), x, y => w.toInt x ≤ w.toInt y
  | fixed (.float _), x, y => Binary.number x ≤ Binary.number y
  | fixed .rowId, x, y => UInt64.toNat x ≤ UInt64.toNat y
  | heap, x, y => x.bytes.data.toList ≤ y.bytes.data.toList

/-- The comparison of stored rows belongs to the order of their values. -/
theorem valueOrder (s : StorageKind) (mark : HeapEntry) :
    ValueOrder (s.isNilCell mark) s.compareCells s.ValueLE := by
  cases s with
  | fixed k =>
    cases k with
    | int w => exact ⟨fun _ _ => compare_le_iff_le, fun _ _ => compare_ge_iff_ge, le_trans⟩
    | float f =>
      have hcompare : ∀ {x y : Binary f}, x.isNaN = false → y.isNaN = false →
          Binary.compare x y = compare x.key y.key := by
        intro x y hx hy
        rw [Binary.compare, hx, hy]
        rfl
      refine ⟨?_, ?_, le_trans⟩
      · intro x y hx hy
        rw [compareCells, SlotKind.compare, hcompare hx hy, compare_le_iff_le]
        exact Binary.key_le_key_iff hx hy
      · intro x y hx hy
        rw [compareCells, SlotKind.compare, hcompare hx hy, compare_ge_iff_ge]
        exact Binary.key_le_key_iff hy hx
    | rowId => exact ⟨fun _ _ => compare_le_iff_le, fun _ _ => compare_ge_iff_ge, le_trans⟩
  | heap =>
    refine ⟨?_, ?_, List.le_trans⟩
    · intro x y _ _
      exact Ordering.isLE_iff_ne_gt.symm.trans (isLE_compare_octets _ _)
    · intro x y _ _
      refine Ordering.isGE_iff_ne_lt.symm.trans ?_
      rw [compareCells, HeapEntry.compareBytes, Std.OrientedCmp.isGE_iff_isLE]
      exact isLE_compare_octets _ _

end StorageKind

/-- An earlier and a later row of a type are in order under a policy. -/
def LogicalType.InOrder (type : LogicalType) (ordering : NullOrdering) (x y : type.storage.Cell) :
    Prop :=
  ordering.InOrder type.isNilCell type.storage.ValueLE x y

namespace Column

/-! ### Built columns -/

/-- A column that is built from host values or from a flat array. -/
inductive Built (type : LogicalType) (options : MarshalOptions) : Column → Prop
  | ofRows {rows : List (Except MarshalError (Option HostValue))} {c : Column}
      (h : build type options rows = .ok c) : Built type options c
  | ofArray {e : Element} {values : Array e.Carrier} {c : Column}
      (h : ofArray e type options values = .ok c) : Built type options c

/-- An earlier and a later row of a column are there and are in order under a policy. -/
def RowsInOrder (c : Column) (ordering : NullOrdering) (i j : ℕ) : Prop :=
  ∃ x y, c.cell i = .ok x ∧ c.cell j = .ok y ∧ c.type.InOrder ordering x y

variable {type : LogicalType} {options : MarshalOptions} {ordering : NullOrdering}

/-- Both ways of building store cells one after the other. -/
lemma Built.exists_cells {c : Column} (h : Built type options c) :
    ∃ cells, c = ofCells type options.nullOrdering cells := by
  cases h with
  | ofRows h =>
    obtain ⟨cells, -, hc⟩ := build_eq_ok_iff.mp h
    exact ⟨cells, hc.symm⟩
  | @ofArray e values _ h =>
    rw [Column.ofArray] at h
    split at h
    · next htype =>
      subst htype
      exact ⟨_, (Except.ok.inj h).symm⟩
    · cases h

section Cells

variable {cells : List type.storage.Cell}

/-- Rows of a column of cells are in order if the cells are. -/
lemma rowsInOrder_ofCells_iff (hfit : (ofCells type ordering cells).Addressable) {i j : ℕ}
    (hi : i < cells.length) (hj : j < cells.length) :
    (ofCells type ordering cells).RowsInOrder ordering i j
      ↔ type.InOrder ordering cells[i] cells[j] := by
  have hci := cell_ofCells hfit (List.getElem?_eq_getElem hi)
  have hcj := cell_ofCells hfit (List.getElem?_eq_getElem hj)
  constructor
  · rintro ⟨x, y, hx, hy, hxy⟩
    obtain rfl := Except.ok.inj (hci.symm.trans hx)
    obtain rfl := Except.ok.inj (hcj.symm.trans hy)
    exact hxy
  · intro h
    exact ⟨_, _, hci, hcj, h⟩

/-- Whether a row of a column of cells is nil can be seen from the cell. -/
lemma exists_isNil_ofCells_iff (hfit : (ofCells type ordering cells).Addressable) :
    (∃ r, (ofCells type ordering cells).isNil r = .ok true)
      ↔ ∃ x ∈ cells, type.isNilCell x = true := by
  constructor
  · rintro ⟨r, hr⟩
    obtain ⟨x, hx, hnil⟩ := map_eq_ok.mp hr
    exact ⟨x, List.mem_of_getElem? ((cell_ofCells_iff hfit).mp hx), hnil⟩
  · rintro ⟨x, hx, hnil⟩
    obtain ⟨r, hr⟩ := List.mem_iff_getElem?.mp hx
    exact ⟨r, map_eq_ok.mpr ⟨x, cell_ofCells hfit hr, hnil⟩⟩

end Cells

/-- A built column is flagged as nullable exactly if one of its rows is nil. -/
lemma nullable_iff_of_built {c : Column} (h : Built type options c) (hfit : c.Addressable) :
    c.flags.nullable = true ↔ ∃ r, c.isNil r = .ok true := by
  obtain ⟨cells, rfl⟩ := h.exists_cells
  rw [exists_isNil_ofCells_iff hfit]
  exact ColumnFlags.nullable_ofList_iff _ cells (type.storage.valueOrder type.nilEntry)

/-- **Exact flags.**  Every row of a built column can be looked at.  The column is nullable exactly if
one of its rows is nil and without nil exactly if it is not nullable, and it is sorted, or sorted
backwards, exactly if every two of its rows are in order, or in the other order. -/
theorem flags_of_built {c : Column} (h : Built type options c) (hfit : c.Addressable) :
    (∀ r < c.count, ∃ x, c.cell r = .ok x)
      ∧ (c.flags.nullable = true ↔ ∃ r, c.isNil r = .ok true)
      ∧ c.flags.nonNil = !c.flags.nullable
      ∧ (c.flags.sorted = true ↔
          ∀ i j, i < j → j < c.count → c.RowsInOrder options.nullOrdering i j)
      ∧ (c.flags.reverseSorted = true ↔
          ∀ i j, i < j → j < c.count → c.RowsInOrder options.nullOrdering j i) := by
  obtain ⟨cells, rfl⟩ := h.exists_cells
  have horder := type.storage.valueOrder type.nilEntry
  rw [count_ofCells]
  refine ⟨?_, ?_, ?_, ?_, ?_⟩
  · intro r hr
    exact ⟨_, cell_ofCells hfit (List.getElem?_eq_getElem hr)⟩
  · rw [exists_isNil_ofCells_iff hfit]
    exact ColumnFlags.nullable_ofList_iff _ cells horder
  · rw [nullable_eq, Bool.not_not]
  · refine (ColumnFlags.sorted_ofList_iff _ cells horder).trans ?_
    rw [List.pairwise_iff_getElem]
    constructor
    · intro hall i j hij hj
      exact (rowsInOrder_ofCells_iff hfit (hij.trans hj) hj).mpr (hall i j _ hj hij)
    · intro hall i j hi hj hij
      exact (rowsInOrder_ofCells_iff hfit hi hj).mp (hall i j hij hj)
  · refine (ColumnFlags.reverseSorted_ofList_iff _ cells horder).trans ?_
    rw [List.pairwise_iff_getElem]
    constructor
    · intro hall i j hij hj
      exact (rowsInOrder_ofCells_iff hfit hj (hij.trans hj)).mpr (hall i j _ hj hij)
    · intro hall i j hi hj hij
      exact (rowsInOrder_ofCells_iff hfit hj hi).mp (hall i j hij hj)

/-- Row identifiers after a nil, whose reserved number is above theirs, are sorted where nil comes
first. -/
theorem flags_of_built_rowIds :
    ∃ c, build .oid {} [.ok none, .ok (some (.string "3@0")), .ok (some (.string "10@0"))] = .ok c
      ∧ c.flags = ⟨true, false, true, false⟩
      ∧ (∀ i j, i < j → j < c.count → c.RowsInOrder .first i j)
      ∧ ¬ ∀ i j, i < j → j < c.count → c.RowsInOrder .first j i := by
  have hc : (ofCells .oid .first [RowId.nil, (3 : RowId), (10 : RowId)]).Addressable := by decide
  have hbuild : build .oid {} [.ok none, .ok (some (.string "3@0")), .ok (some (.string "10@0"))]
      = .ok (ofCells .oid .first [RowId.nil, (3 : RowId), (10 : RowId)]) := rfl
  obtain ⟨-, -, -, hsorted, hreverse⟩ := flags_of_built (.ofRows hbuild) hc
  refine ⟨_, hbuild, rfl, hsorted.mp rfl, fun h => ?_⟩
  cases hreverse.mpr h

end Column

end ColumnBridge
