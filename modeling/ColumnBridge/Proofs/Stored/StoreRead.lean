import ColumnBridge.Column.Build
import ColumnBridge.Column.Read
import ColumnBridge.Proofs.Stored.Canonical
import ColumnBridge.Proofs.Stored.Cells

/-!
Columns that are built and read again.

* `Column.build_eq_ok_iff`: a column is built exactly if every row is stored, and it is the column of the
  stored cells;
* `Column.read_ofValues`: a column built from host values has a row for each of them, and every row is
  read as the canonical form of its value, whatever the other rows are.
-/

namespace ColumnBridge.Column

/-- Every octet of the heap of a column has a 64-bit address, as it has in any memory that holds the
column. -/
def Addressable (c : Column) : Prop := c.type.storage.heapSize c.contents < 2 ^ 64

instance (c : Column) : Decidable c.Addressable := inferInstanceAs (Decidable (_ < _))

section Build

variable {type : LogicalType} {options : MarshalOptions}

/-- A column is built exactly if every row is stored: then it is the column of the stored cells. -/
lemma build_eq_ok_iff {rows : List (Except MarshalError (Option HostValue))} {c : Column} :
    build type options rows = .ok c ↔
      ∃ cells, List.Forall₂ (fun row cell => (row >>= type.encode options) = .ok cell) rows cells
        ∧ ofCells type options.nullOrdering cells = c := by
  rw [build, bind_eq_ok]
  refine exists_congr fun cells => and_congr mapM_eq_ok_iff ?_
  exact ⟨fun h => Except.ok.inj h, fun h => congrArg Except.ok h⟩

/-- A column is built exactly if each row is stored. -/
lemma exists_build_iff {rows : List (Except MarshalError (Option HostValue))} :
    (∃ c, build type options rows = .ok c)
      ↔ ∀ row ∈ rows, ∃ cell, (row >>= type.encode options) = .ok cell := by
  simp only [build_eq_ok_iff, ← exists_mapM_iff, mapM_eq_ok_iff]
  rw [exists_comm]
  simp only [exists_and_left, exists_eq', and_true]

/-- A column is built from host values exactly if every value is stored. -/
lemma ofValues_eq_ok_iff {values : List (Option HostValue)} {c : Column} :
    ofValues type options values = .ok c ↔
      ∃ cells, List.Forall₂ (fun v cell => type.encode options v = .ok cell) values cells
        ∧ ofCells type options.nullOrdering cells = c := by
  rw [ofValues, build_eq_ok_iff]
  simp only [List.forall₂_map_left_iff]
  rfl

/-- A column of cells has a row for each of them. -/
lemma count_ofCells (ordering : NullOrdering) (cells : List type.storage.Cell) :
    (ofCells type ordering cells).count = cells.length :=
  StorageKind.rowCount_ofCells ..

/-- A row of a column of cells is the cell. -/
lemma cell_ofCells {ordering : NullOrdering} {cells : List type.storage.Cell}
    (hfit : (ofCells type ordering cells).Addressable) {r : ℕ} {cell : type.storage.Cell}
    (hr : cells[r]? = some cell) : (ofCells type ordering cells).cell r = .ok cell :=
  StorageKind.cell_ofCells hfit hr

/-- A column of cells has no other rows than the cells. -/
lemma cell_ofCells_iff {ordering : NullOrdering} {cells : List type.storage.Cell}
    (hfit : (ofCells type ordering cells).Addressable) {r : ℕ} {cell : type.storage.Cell} :
    (ofCells type ordering cells).cell r = .ok cell ↔ cells[r]? = some cell := by
  refine ⟨fun h => ?_, cell_ofCells hfit⟩
  have hr : r < cells.length := by
    rw [← count_ofCells ordering cells]
    exact StorageKind.lt_rowCount_of_cell_eq_ok h
  rw [List.getElem?_eq_getElem hr, Option.some_inj]
  exact Except.ok.inj ((cell_ofCells hfit (List.getElem?_eq_getElem hr)).symm.trans h)

/-- Reading a row of a column of cells is reading the cell. -/
lemma read_ofCells {ordering : NullOrdering} {cells : List type.storage.Cell}
    (hfit : (ofCells type ordering cells).Addressable) {r : ℕ} {cell : type.storage.Cell}
    (hr : cells[r]? = some cell) :
    (ofCells type ordering cells).read options r = type.read options cell := by
  rw [read, cell_ofCells hfit hr]
  rfl

/-- A row of a column built from host values is read as the canonical form of its value. -/
lemma read_row_of_ofValues {values : List (Option HostValue)} {c : Column}
    (h : ofValues type options values = .ok c) (hfit : c.Addressable) {r : ℕ}
    {v : Option HostValue} (hr : values[r]? = some v) :
    c.read options r = type.canonical options v := by
  obtain ⟨cells, hcells, rfl⟩ := ofValues_eq_ok_iff.mp h
  obtain ⟨cell, hcell, hstored⟩ := exists_getElem?_of_forall₂ hcells hr
  rw [read_ofCells hfit hcell]
  exact LogicalType.read_encode hstored

/-- It has one, unless it is a timestamp whose host milliseconds have no room. -/
lemma canonical_of_ofValues {values : List (Option HostValue)} {c : Column}
    (h : ofValues type options values = .ok c) (hfit : c.Addressable) {r : ℕ}
    {v : Option HostValue} (hr : values[r]? = some v) :
    (∃ kept, type.canonical options v = .ok kept)
      ∨ type = .timestamp ∧ type.canonical options v = .error .overflow ∧ ¬ c.FetchFits options := by
  have hread := read_row_of_ofValues h hfit hr
  obtain ⟨cells, hcells, rfl⟩ := ofValues_eq_ok_iff.mp h
  obtain ⟨cell, -, hstored⟩ := exists_getElem?_of_forall₂ hcells hr
  rcases LogicalType.canonical_eq_ok_or_overflow hstored with hok | ⟨htype, hoverflow⟩
  · exact .inl hok
  · exact .inr ⟨htype, hoverflow, not_fetchFits_of_read (hread.trans hoverflow)⟩

/-- **Storing and reading.**  A column built from host values has exactly one row for each of them, and
every row is read as the canonical form of its value.  There is one, unless the value is a timestamp whose
host milliseconds have no room: then the fetch overflows.  What a row is read as depends on its own value
alone: the same value in any other column built of the type is read alike. -/
theorem read_ofValues {values : List (Option HostValue)} {c : Column}
    (h : ofValues type options values = .ok c) (hfit : c.Addressable) :
    c.count = values.length
      ∧ (∀ (r : ℕ) (v : Option HostValue), values[r]? = some v →
          c.read options r = type.canonical options v
            ∧ ((∃ kept, type.canonical options v = .ok kept)
              ∨ type = .timestamp ∧ type.canonical options v = .error .overflow
                ∧ ¬ c.FetchFits options))
      ∧ ∀ (others : List (Option HostValue)) (d : Column) (r s : ℕ) (v : Option HostValue),
          ofValues type options others = .ok d → d.Addressable →
          values[r]? = some v → others[s]? = some v →
          c.read options r = d.read options s := by
  refine ⟨?_, fun r v hr => ⟨read_row_of_ofValues h hfit hr, canonical_of_ofValues h hfit hr⟩, ?_⟩
  · obtain ⟨cells, hcells, rfl⟩ := ofValues_eq_ok_iff.mp h
    rw [count_ofCells, hcells.length_eq]
  · intro others d r s v hd hfit' hr hs
    rw [read_row_of_ofValues h hfit hr, read_row_of_ofValues hd hfit' hs]

/-- A string column with a nil row between an empty text and a text that is no ASCII, which is read as it
is in a column of its own. -/
theorem read_ofValues_strings :
    ∃ c d, ofValues .string {} [some (.string ""), none, some (.string "né")] = .ok c
      ∧ ofValues .string {} [some (.string "né")] = .ok d
      ∧ c.Addressable ∧ d.Addressable ∧ c.count = 3 ∧ c.read {} 0 = .ok (some (.string ""))
      ∧ c.read {} 1 = .ok none ∧ c.read {} 2 = .ok (some (.string "né"))
      ∧ c.read {} 2 = d.read {} 0 := by
  have hc : (ofCells .string .first
      [.payload "".toByteArray, .nilString, .payload "né".toByteArray]).Addressable := by decide
  have hd : (ofCells .string .first [.payload "né".toByteArray]).Addressable := by decide
  obtain ⟨hcount, hread, hsame⟩ :=
    @read_ofValues .string {} [some (.string ""), none, some (.string "né")] _ rfl hc
  exact ⟨_, _, rfl, rfl, hc, hd, hcount, (hread 0 _ rfl).1, (hread 1 _ rfl).1, (hread 2 _ rfl).1,
    hsame [some (.string "né")] _ 2 0 _ rfl hd rfl rfl⟩

end Build

end ColumnBridge.Column
