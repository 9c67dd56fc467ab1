import ColumnBridge.Proofs.Flags.Tracker
import ColumnBridge.Proofs.Stored.Fetched
import ColumnBridge.Proofs.Stored.StoreRead
import ColumnBridge.Proofs.Time.StoreFetch

/-!
Columns that are read and stored again.

What a build changes about host values it changes the first time: decimals are rounded, clock times are
moved to the whole of what a cell keeps, row identifiers lose their leading zeros, and numbers that are
their own nil become nil.  Reading the column and storing what was read gives the column back.  The one
thing that reading does not show is which NaN a float cell holds, and storing none keeps the usual one.

* `Column.quiet`: a column with the usual NaN in place of every NaN, and nothing else changed;
* `LogicalType.encode_canonical`: the canonical form of a stored value is stored in the same cell;
* `Column.ofValues_readAll`: the same for whole columns, with slots, heap and flags.
-/

namespace ColumnBridge

/-! ### One NaN for all -/

namespace Binary

variable {f : FloatFormat}

/-- The NaN that a column stores for nil in place of any NaN. -/
def quiet (x : Binary f) : Binary f := if x.isNaN then nan f else x

lemma isNaN_nan (f : FloatFormat) : (nan f).isNaN = true := by cases f <;> decide

lemma quiet_of_isNaN {x : Binary f} (h : x.isNaN = true) : x.quiet = nan f := if_pos h

lemma quiet_of_not_isNaN {x : Binary f} (h : x.isNaN = false) : x.quiet = x := by
  rw [quiet, h, if_neg Bool.false_ne_true]

@[simp] lemma isNaN_quiet (x : Binary f) : x.quiet.isNaN = x.isNaN := by
  cases h : x.isNaN with
  | true => rw [quiet_of_isNaN h, isNaN_nan]
  | false => rw [quiet_of_not_isNaN h, h]

lemma compare_quiet (x y : Binary f) : compare x.quiet y.quiet = compare x y := by
  rw [compare, compare, isNaN_quiet, isNaN_quiet]
  split
  · rfl
  · next h =>
    obtain ⟨hx, hy⟩ : x.isNaN = false ∧ y.isNaN = false := by simpa using h
    rw [quiet_of_not_isNaN hx, quiet_of_not_isNaN hy]

end Binary

namespace StorageKind

/-- A cell with the usual NaN in place of any NaN. -/
def quietCell : (s : StorageKind) → s.Cell → s.Cell
  | fixed (.float _), x => Binary.quiet x
  | fixed (.int _), x => x
  | fixed .rowId, x => x
  | heap, e => e

/-- Stored rows with the usual NaN in place of every NaN. -/
def quiet : (s : StorageKind) → s.Contents → s.Contents
  | fixed k, slots => Array.map (quietCell (fixed k)) slots
  | heap, rows => rows

/-- A nil cell is quiet if it is the cell that stands for nil. -/
lemma quietCell_of_isNilCell {s : StorageKind} {mark : HeapEntry} {c : s.Cell}
    (h : s.isNilCell mark c = true) : s.quietCell c = s.nilCell mark := by
  cases s with
  | fixed k =>
    cases k with
    | int w =>
      have hleast : w.toInt c = w.least := decide_eq_true_iff.mp h
      exact (w.ofInt_toInt c).symm.trans (congrArg w.ofInt hleast)
    | float f => exact Binary.quiet_of_isNaN h
    | rowId => exact decide_eq_true_iff.mp h
  | heap => exact decide_eq_true_iff.mp h

/-- A cell that is not nil is quiet. -/
lemma quietCell_of_not_isNilCell {s : StorageKind} {mark : HeapEntry} {c : s.Cell}
    (h : s.isNilCell mark c = false) : s.quietCell c = c := by
  cases s with
  | fixed k =>
    cases k with
    | float f => exact Binary.quiet_of_not_isNaN h
    | _ => rfl
  | heap => rfl

lemma isNilCell_quietCell (s : StorageKind) (mark : HeapEntry) (c : s.Cell) :
    s.isNilCell mark (s.quietCell c) = s.isNilCell mark c := by
  cases s with
  | fixed k =>
    cases k with
    | float f => exact Binary.isNaN_quiet c
    | _ => rfl
  | heap => rfl

lemma compareCells_quietCell (s : StorageKind) (c d : s.Cell) :
    s.compareCells (s.quietCell c) (s.quietCell d) = s.compareCells c d := by
  cases s with
  | fixed k =>
    cases k with
    | float f => exact Binary.compare_quiet c d
    | _ => rfl
  | heap => rfl

/-- Storing quiet cells is making the stored rows quiet. -/
lemma ofCells_map_quietCell (s : StorageKind) (cells : List s.Cell) :
    s.ofCells (cells.map s.quietCell) = s.quiet (s.ofCells cells) := by
  cases s with
  | fixed k => exact List.map_toArray.symm
  | heap => exact congrArg (ofCells heap) (List.map_id cells)

end StorageKind

namespace Column

/-- The column with the usual NaN in place of every NaN. Slots that hold none, heap and flags are those of
the column. -/
def quiet (c : Column) : Column := { c with contents := c.type.storage.quiet c.contents }

/-- The column of quiet cells is the quiet column, since no flag depends on which NaN a cell holds. -/
lemma ofCells_map_quietCell (type : LogicalType) (ordering : NullOrdering)
    (cells : List type.storage.Cell) :
    ofCells type ordering (cells.map type.storage.quietCell) = (ofCells type ordering cells).quiet := by
  have hflags : ColumnFlags.ofList ordering type.isNilCell type.storage.compareCells
        (cells.map type.storage.quietCell)
      = ColumnFlags.ofList ordering type.isNilCell type.storage.compareCells cells :=
    ColumnFlags.ofList_map ordering cells (type.storage.isNilCell_quietCell type.nilEntry)
      type.storage.compareCells_quietCell
  simp only [ofCells, quiet, StorageKind.ofCells_map_quietCell, hflags]

end Column

/-! ### One cell -/

namespace LogicalType

variable {options : MarshalOptions}

/-- A cell that stores a value and is not nil decodes to a value that is stored in the same cell. -/
lemma exists_decode_of_encodeValue {t : LogicalType} {v : HostValue} {c : t.storage.Cell}
    (h : t.encodeValue options v = .ok c) (hnil : t.isNilCell c = false)
    (hfit : t.FetchFits options c) :
    ∃ w, t.decode options c = .ok w ∧ t.encodeValue options w = .ok c := by
  have hkind := kind_of_encodeValue h
  cases t with
  | boolean =>
    cases v with
    | boolean b =>
      cases h
      cases b <;> exact ⟨_, rfl, rfl⟩
    | _ => cases hkind
  | oid =>
    cases v with
    | string s =>
      rw [encodeValue] at h
      obtain ⟨id, hparse, hid⟩ := map_eq_ok.mp h
      subst hid
      cases id with
      | none => cases hnil
      | some id =>
        have hagain : oid.encodeValue options (.string (RowId.render id)) = .ok id := by
          rw [encodeValue, RowId.parse_render (RowId.lt_nil_of_parse hparse)]
          rfl
        exact ⟨_, rfl, hagain⟩
    | _ => cases hkind
  | date => exact ⟨_, rfl, HostClock.msToDate_dateToMs c⟩
  | time =>
    cases v with
    | time ms =>
      have hdecode : time.decode options c = .ok (.time ms) := by
        rw [decode, HostClock.timeToMs_msToTime h]
        rfl
      exact ⟨_, hdecode, h⟩
    | _ => cases hkind
  | timestamp =>
    cases v with
    | timestamp ms =>
      obtain ⟨again, hfetched, hstored⟩ := HostClock.msToTimestamp_restored h hfit
      have hdecode : timestamp.decode options c = .ok (.timestamp again) := by
        rw [decode, hfetched]
        rfl
      exact ⟨_, hdecode, hstored⟩
    | _ => cases hkind
  | decimal spec =>
    cases v with
    | decimal d =>
      have hlt := (Decimal.fit_eq_ok_iff.mp (encodeValue_decimal_eq_ok_iff.mp h)).2
      exact ⟨_, decode_decimal c, encodeValue_decimal_eq_ok_iff.mpr (Decimal.fit_stored hlt _)⟩
    | _ => cases hkind
  | string =>
    cases v with
    | string s =>
      cases h
      have hdecode : string.decode options (.payload s.toByteArray) = .ok (.string s) := by
        rw [decode, decodeText, Text.Utf8.decode_toByteArray]
        rfl
      exact ⟨_, hdecode, rfl⟩
    | _ => cases hkind
  | blob =>
    cases v with
    | bytes b =>
      cases h
      exact ⟨_, rfl, rfl⟩
    | _ => cases hkind
  -- integers and floats are stored and decoded as they are
  | tinyInt | smallInt | int | bigInt | real | double => exact ⟨_, rfl, rfl⟩

/-- The canonical form of a stored value, or of none, is stored in the same cell. -/
theorem encode_canonical {t : LogicalType} {v : Option HostValue} {c : t.storage.Cell}
    (h : t.encode options v = .ok c) (hfit : t.isNilCell c = false → t.FetchFits options c) :
    ∃ kept, t.canonical options v = .ok kept ∧ t.encode options kept = .ok (t.storage.quietCell c) := by
  have hread := read_encode h
  cases hnil : t.isNilCell c with
  | true =>
    rw [read_eq_ok_none_iff.mpr hnil] at hread
    rw [StorageKind.quietCell_of_isNilCell hnil]
    exact ⟨none, hread.symm, rfl⟩
  | false =>
    cases v with
    | none =>
      cases h
      rw [isNilCell_nilCell] at hnil
      cases hnil
    | some v =>
      obtain ⟨w, hdecode, hagain⟩ := exists_decode_of_encodeValue h hnil (hfit hnil)
      rw [read_eq_ok_some_iff.mpr ⟨hnil, hdecode⟩] at hread
      rw [StorageKind.quietCell_of_not_isNilCell hnil]
      exact ⟨some w, hread.symm, hagain⟩

end LogicalType

/-! ### Whole columns -/

namespace Column

variable {type : LogicalType} {options : MarshalOptions}

/-- The host milliseconds of a column of cells are machine integers if those of its cells are. -/
lemma fetchFits_ofCells {ordering : NullOrdering} {cells : List type.storage.Cell}
    (hfit : (ofCells type ordering cells).Addressable)
    (hcells : ∀ x ∈ cells, type.isNilCell x = false → type.FetchFits options x) :
    (ofCells type ordering cells).FetchFits options := by
  intro row x hx
  exact hcells x (List.mem_of_getElem? ((cell_ofCells_iff hfit).mp hx))

/-- What a row is read as is stored in the cell of the row, made quiet. -/
lemma exists_read_stored {values : List (Option HostValue)} {cells : List type.storage.Cell}
    (hcells : List.Forall₂ (fun v cell => type.encode options v = .ok cell) values cells)
    (hfit : (ofCells type options.nullOrdering cells).Addressable)
    (hfetch : (ofCells type options.nullOrdering cells).FetchFits options) {row : ℕ}
    {x : type.storage.Cell} (hx : cells[row]? = some x) :
    ∃ kept, (ofCells type options.nullOrdering cells).read options row = .ok kept
      ∧ type.encode options kept = .ok (type.storage.quietCell x) := by
  have hflip : List.Forall₂ (fun cell v => type.encode options v = .ok cell) cells values := hcells.flip
  obtain ⟨v, -, hstored⟩ := exists_getElem?_of_forall₂ hflip hx
  obtain ⟨kept, hkept, hagain⟩ :=
    LogicalType.encode_canonical hstored (hfetch row x (cell_ofCells hfit hx))
  refine ⟨kept, ?_, hagain⟩
  rw [read_ofCells hfit hx, LogicalType.read_encode hstored, hkept]

/-- **Storing what was read.**  All rows of a column that was built from host values are read, and the
column that is built from what they are read as is the same column, but for which NaN a cell holds. -/
theorem ofValues_readAll {values : List (Option HostValue)} {c : Column}
    (h : ofValues type options values = .ok c) (hfit : c.Addressable) (hfetch : c.FetchFits options) :
    ∃ again, c.readAll options = .ok again ∧ ofValues type options again = .ok c.quiet := by
  obtain ⟨cells, hcells, rfl⟩ := ofValues_eq_ok_iff.mp h
  have hcount := count_ofCells options.nullOrdering cells
  obtain ⟨again, hread⟩ : ∃ again, (ofCells type options.nullOrdering cells).readAll options = .ok again := by
    refine exists_mapM_range_iff.mpr fun row hrow => ?_
    rw [hcount] at hrow
    obtain ⟨kept, hkept, -⟩ := exists_read_stored hcells hfit hfetch (List.getElem?_eq_getElem hrow)
    exact ⟨kept, hkept⟩
  obtain ⟨hlength, hrows⟩ := readAll_eq_ok_iff.mp hread
  refine ⟨again, hread,
    ofValues_eq_ok_iff.mpr ⟨cells.map type.storage.quietCell, ?_, ofCells_map_quietCell ..⟩⟩
  rw [List.forall₂_map_right_iff]
  refine List.forall₂_of_length_eq_of_get (hlength.trans hcount) ?_
  intro row hrow hrow'
  obtain ⟨kept, hkept, hagain⟩ :=
    exists_read_stored hcells hfit hfetch (List.getElem?_eq_getElem hrow')
  obtain rfl := Except.ok.inj ((hrows row _ (List.getElem?_eq_getElem hrow)).symm.trans hkept)
  exact hagain

/-- One hour behind the 365 days of 1970 is read as seven hours behind them and stored again in the same
slot, beside a nil row; and a NaN with a payload is read as none and stored again as the usual one. -/
theorem ofValues_readAll_moved :
    (∃ c, ofValues .timestamp .utc [some (.timestamp 31539600000), none] = .ok c
        ∧ c.readAll .utc = .ok [some (.timestamp 31561200000), none]
        ∧ ofValues .timestamp .utc [some (.timestamp 31561200000), none] = .ok c.quiet
        ∧ c.quiet = c)
      ∧ ∃ c, ofValues .real {} [some (.float (.ofNat .single 0x7FC00001))] = .ok c
        ∧ c.slots (.float .single) = .ok #[.ofNat .single 0x7FC00001]
        ∧ c.readAll {} = .ok [none] ∧ ofValues .real {} [none] = .ok c.quiet
        ∧ c.quiet.slots (.float .single) = .ok #[.nan .single] := by
  constructor
  · have hbuild : ofValues .timestamp .utc [some (.timestamp 31539600000), none]
        = .ok (ofCells .timestamp .first [(31539600000000 : Int64), Int64.minValue]) := by rfl
    have hfit : (ofCells .timestamp .first
        [(31539600000000 : Int64), Int64.minValue]).Addressable := by decide
    have hfetch : (ofCells .timestamp .first
        [(31539600000000 : Int64), Int64.minValue]).FetchFits .utc := by
      refine fetchFits_ofCells hfit ?_
      intro x hx hnil
      rcases List.mem_pair.mp hx with rfl | rfl
      · exact (by decide : IntWidth.w64.InRange (HostClock.exactTimestampMs 31539600000000 0))
      · cases hnil
    obtain ⟨again, hread, hstored⟩ := ofValues_readAll hbuild hfit hfetch
    obtain rfl : [some (.timestamp 31561200000), none] = again :=
      Except.ok.inj (Eq.trans (by rfl) hread)
    exact ⟨_, hbuild, hread, hstored, (ofCells_map_quietCell ..).symm⟩
  · have hbuild : ofValues .real {} [some (.float (.ofNat .single 0x7FC00001))]
        = .ok (ofCells .real .first [Binary.ofNat .single 0x7FC00001]) := by rfl
    have hfit : (ofCells .real .first [Binary.ofNat .single 0x7FC00001]).Addressable := by decide
    obtain ⟨again, hread, hstored⟩ := ofValues_readAll hbuild hfit (fun _ _ _ _ => trivial)
    obtain rfl : [none] = again := Except.ok.inj (Eq.trans (by rfl) hread)
    refine ⟨_, hbuild, rfl, hread, hstored, ?_⟩
    rw [← ofCells_map_quietCell]
    rfl

end Column

end ColumnBridge
