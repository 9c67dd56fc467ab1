import ColumnBridge.Column.Builder
import ColumnBridge.Proofs.Flags.Backward
import ColumnBridge.Proofs.Stored.Nil

/-!
Columns that grow row by row.

A builder decides about a row from the row alone, so a pass stops at the first row that cannot be stored
alone, whatever stands in front of it or behind it.  What it has after the other rows is what the column
of their cells has.

* `LogicalType.writer_eq`: the builder of a type fills the storage of the type with the cells that the type
  stores, and `ColumnBuilder.finish_eq`: what it has then always makes a column;
* `ColumnBuilder.Keeps`: the rows of a builder and its tracker are those of a list of cells;
  `ColumnBuilder.Keeps.push` keeps it for one more cell;
* `ColumnBuilder.takeRows_of_forall₂`, `ColumnBuilder.takeRows_of_stopsAt`: a whole pass, and
  `ColumnBuilder.exists_cells_of_takeRows`: what holds at its end;
* `Column.buildForward_of_addressable`: a pass gives the column that `Column.build` gives;
* `Column.buildForward_firstFailure`: which rows are built, and what the others fail with.
-/

namespace ColumnBridge

/-! ### The storage of a builder -/

namespace LogicalType

/-- What is stored for a row, which may be a failure by itself. -/
def encodeRow (options : MarshalOptions) (t : LogicalType)
    (row : Except MarshalError (Option HostValue)) : Except MarshalError t.storage.Cell :=
  row >>= t.encode options

lemma write_decimalWriter (options : MarshalOptions) (spec : DecimalSpec) :
    (decimalWriter options spec spec.width).write = (decimal spec).encodeValue options := by
  funext v
  cases v with
  | decimal d =>
    refine congrArg (d.fit spec options.rounding).bind (funext fun unscaled => ?_)
    cases spec.width.ofInt? unscaled <;> rfl
  | _ => rfl

/-- The builder of a type fills the storage of the type with the cells that the type stores. -/
lemma writer_eq (options : MarshalOptions) (t : LogicalType) :
    t.writer options = ⟨t.storage, t.encodeValue options⟩ := by
  cases t with
  | decimal spec =>
    have hwidth : (decimal spec).writer options = decimalWriter options spec spec.width := by
      rw [writer]
      dsimp only [storage]
      cases spec.width <;> rfl
    rw [hwidth, ← write_decimalWriter]
    rfl
  | _ => rfl

end LogicalType

namespace SortTracker

/-- The rows that went by have a nil or they have none. -/
lemma nullable_flags (t : SortTracker) : t.flags.nullable = !t.flags.nonNil :=
  (Bool.not_not _).symm

end SortTracker

namespace ColumnBuilder

variable {type : LogicalType}

/-- The column of what the builder of a type has. -/
def column (b : ColumnBuilder type.storage) : Column :=
  ⟨type, b.contents, b.tracker.flags, b.tracker.nullable_flags⟩

/-- What the builder of a type has always makes a column. -/
lemma finish_eq (b : ColumnBuilder type.storage) : b.finish type = .ok b.column := by
  rw [finish, Column.make, dif_pos rfl, dif_pos b.tracker.nullable_flags]
  rfl

end ColumnBuilder

/-! ### Payloads of a heap -/

namespace Heap

/-- A heap only grows. -/
lemma size_le_size_push (h : Heap) (e : HeapEntry) : h.size ≤ (h.push e).size := by
  rw [size_push]
  exact Nat.le_add_right ..

lemma payload_of_entry {h : Heap} {offset : UInt64} {e : HeapEntry}
    (he : h.entry offset.toNat = .ok e) : h.payload offset = e.bytes := by
  rw [payload, he]
  cases e <;> rfl

lemma compareAt_of_entries {h : Heap} {a b : UInt64} {x y : HeapEntry}
    (hx : h.entry a.toNat = .ok x) (hy : h.entry b.toNat = .ok y) :
    h.compareAt a b = x.compareBytes y := by
  rw [compareAt, payload_of_entry hx, payload_of_entry hy, HeapEntry.compareBytes]

end Heap

namespace StorageKind

/-- A row of a heap has an offset that leads to its entry. -/
lemma exists_offset {cells : List HeapEntry} (hfit : (ofCells heap cells).heap.size < 2 ^ 64) {i : ℕ}
    {e : HeapEntry} (hi : cells[i]? = some e) :
    ∃ offset, (ofCells heap cells).offsets[i]? = some offset
      ∧ (ofCells heap cells).heap.entry offset.toNat = .ok e := by
  have hcell := entry_ofCells hfit hi
  rw [cell] at hcell
  split at hcell
  · next offset hoffset => exact ⟨offset, hoffset, hcell⟩
  · cases hcell

/-- A new entry of a heap is compared with an earlier row through the offsets of both. -/
lemma compareWithRow_offsets {entries : List HeapEntry} {e : HeapEntry}
    (hfit : ((ofCells heap entries).heap.push e).size < 2 ^ 64) {row : ℕ} (hrow : row < entries.length) :
    compareWithRow (ofCells heap entries).offsets ((ofCells heap entries).heap.push e).compareAt
        (ofCells heap entries).heap.size.toUInt64 row
      = compareWithRow entries.toArray HeapEntry.compareBytes e row := by
  have hold := (Heap.size_le_size_push (ofCells heap entries).heap e).trans_lt hfit
  have hget : entries[row]? = some entries[row] := List.getElem?_eq_getElem hrow
  obtain ⟨earlier, hearlier, hentry⟩ := exists_offset hold hget
  have hnew := Heap.entry_push_self (ofCells heap entries).heap e hfit
  rw [← UInt64.toNat_ofNat_of_lt' hold] at hnew
  simp only [compareWithRow, hearlier, List.getElem?_toArray, hget]
  exact Heap.compareAt_of_entries hnew (Heap.entry_push_of_ok e hentry)

end StorageKind

/-! ### What a builder keeps -/

namespace ColumnBuilder

variable {s : StorageKind} {mark : HeapEntry} {ordering : NullOrdering} {cells : List s.Cell}

/-- The rows of a builder are the stored form of cells, and its tracker has seen these, as long as the
octets of a heap have 64-bit addresses. -/
structure Keeps (b : ColumnBuilder s) (mark : HeapEntry) (ordering : NullOrdering)
    (cells : List s.Cell) : Prop where
  contents_eq : b.contents = s.ofCells cells
  tracker_eq : s.heapSize (s.ofCells cells) < 2 ^ 64 →
    b.tracker = .ofList ordering (s.isNilCell mark) s.compareCells cells

namespace Keeps

/-- A builder without rows keeps no cells. -/
lemma start (s : StorageKind) (mark : HeapEntry) (ordering : NullOrdering) :
    (ColumnBuilder.start s ordering).Keeps mark ordering [] :=
  ⟨rfl, fun _ => rfl⟩

/-- A slot is pushed with the number of slots in front of it. -/
lemma pushSlot {k : SlotKind} {slots : List k.Slot} {b : ColumnBuilder (.fixed k)}
    (h : b.Keeps mark ordering slots) (slot : k.Slot) :
    (b.pushSlot slots.length slot).Keeps mark ordering (slots ++ [slot]) := by
  obtain ⟨contents, tracker⟩ := b
  obtain ⟨rfl, htracker⟩ := h
  have htrack := htracker (Nat.two_pow_pos 64)
  refine ⟨List.push_toArray slots slot, fun _ => ?_⟩
  rw [SortTracker.ofList_append, ← htrack]
  rfl

/-- An entry is pushed with whether it is the mark of nil. -/
lemma pushEntry {entries : List HeapEntry} {b : ColumnBuilder .heap}
    (h : b.Keeps mark ordering entries) (e : HeapEntry) :
    (b.pushEntry (decide (e = mark)) e).Keeps mark ordering (entries ++ [e]) := by
  obtain ⟨contents, tracker⟩ := b
  obtain ⟨rfl, htracker⟩ := h
  have hpushed := StorageKind.ofCells_heap_append entries e
  refine ⟨hpushed.symm, fun hfit => ?_⟩
  have hroom : ((StorageKind.ofCells .heap entries).heap.push e).size < 2 ^ 64 := by
    rw [hpushed] at hfit
    exact hfit
  have htrack := htracker ((Heap.size_le_size_push _ e).trans_lt hroom)
  have hsize : (StorageKind.ofCells .heap entries).offsets.size = entries.length :=
    StorageKind.rowCount_ofCells .heap entries
  rw [SortTracker.ofList_append, ← htrack, ← hsize]
  -- the comparison counts at the compared row alone, and that is an earlier one
  refine SortTracker.observe_congr _ fun row hrow => StorageKind.compareWithRow_offsets hroom ?_
  rw [htrack] at hrow
  exact SortTracker.comparedRow_lt ordering entries hrow

/-- A cell is pushed; of an entry it has to be known whether it is the mark of nil. -/
lemma push {b : ColumnBuilder s} (h : b.Keeps mark ordering cells) {isNone : Bool} {cell : s.Cell}
    (hnone : s = .heap → isNone = s.isNilCell mark cell) :
    (b.push isNone cell).Keeps mark ordering (cells ++ [cell]) := by
  cases s with
  | fixed k =>
    have hcount : Array.size b.contents = cells.length := by
      rw [h.contents_eq]
      exact List.size_toArray
    rw [ColumnBuilder.push, hcount]
    exact h.pushSlot cell
  | heap =>
    rw [ColumnBuilder.push, hnone rfl]
    exact h.pushEntry cell

end Keeps

/-! ### A pass -/

variable {type : LogicalType} {options : MarshalOptions}
  {row : Except MarshalError (Option HostValue)}
  {rows rest : List (Except MarshalError (Option HostValue))}

lemma takeValue_eq (b : ColumnBuilder type.storage) (v : Option HostValue) :
    b.takeValue type.nilEntry (type.encodeValue options) v
      = (type.encode options v).map (b.push v.isNone) := by
  cases v <;> rfl

/-- In a heap the mark of nil is stored for no value. -/
lemma isNone_eq_of_encode {v : Option HostValue} {cell : type.storage.Cell}
    (h : type.encode options v = .ok cell) (hheap : type.storage = .heap) :
    v.isNone = type.isNilCell cell := by
  cases v with
  | none =>
    cases h
    exact (LogicalType.isNilCell_nilCell type).symm
  | some v =>
    have hnever : type.neverNil = true := by
      cases type <;> first | rfl | cases hheap
    refine (Bool.eq_false_iff.mpr fun hnil => ?_).symm
    exact LogicalType.not_standsForNil_of_neverNil hnever v
      ((LogicalType.isNilCell_encodeValue_iff h).mp hnil)

/-- A row that is stored is pushed. -/
lemma takeRow_of_ok {cell : type.storage.Cell} (h : type.encodeRow options row = .ok cell) :
    ∃ isNone, (type.storage = .heap → isNone = type.isNilCell cell)
      ∧ ∀ b : ColumnBuilder type.storage,
          (row >>= b.takeValue type.nilEntry (type.encodeValue options)) = .ok (b.push isNone cell) := by
  obtain ⟨v, rfl, hcell⟩ := bind_eq_ok.mp h
  refine ⟨v.isNone, isNone_eq_of_encode hcell, fun b => ?_⟩
  calc b.takeValue type.nilEntry (type.encodeValue options) v
      = (type.encode options v).map (b.push v.isNone) := takeValue_eq b v
    _ = .ok (b.push v.isNone cell) := by rw [hcell, Except.map]

/-- A row that is not stored ends a pass with its own failure. -/
lemma takeRow_of_error (b : ColumnBuilder type.storage) {failure : MarshalError}
    (h : type.encodeRow options row = .error failure) :
    (row >>= b.takeValue type.nilEntry (type.encodeValue options)) = .error failure := by
  cases row with
  | error _ => exact congrArg Except.error (Except.error.inj h)
  | ok v =>
    have hv : type.encode options v = .error failure := h
    calc b.takeValue type.nilEntry (type.encodeValue options) v
        = (type.encode options v).map (b.push v.isNone) := takeValue_eq b v
      _ = .error failure := by rw [hv, Except.map]

/-- A pass over rows that are stored goes to the end, and what pushing a cell preserves holds there. -/
lemma takeRows_of_forall₂ {P : List type.storage.Cell → ColumnBuilder type.storage → Prop}
    (hpush : ∀ {first : List type.storage.Cell} {b : ColumnBuilder type.storage} {isNone : Bool}
      {cell : type.storage.Cell}, P first b → (type.storage = .heap → isNone = type.isNilCell cell) →
        P (first ++ [cell]) (b.push isNone cell))
    {cells : List type.storage.Cell}
    (h : List.Forall₂ (fun row cell => type.encodeRow options row = .ok cell) rows cells) :
    ∀ {b : ColumnBuilder type.storage} {first : List type.storage.Cell}, P first b →
      ∃ last, b.takeRows type.nilEntry (type.encodeValue options) rows = (.ok last, [])
        ∧ P (first ++ cells) last := by
  induction h with
  | nil =>
    intro b first hb
    refine ⟨b, rfl, ?_⟩
    rwa [List.append_nil]
  | @cons row cell rows cells hcell _ ih =>
    intro b first hb
    obtain ⟨isNone, hnone, hnext⟩ := takeRow_of_ok hcell
    obtain ⟨last, hlast, hall⟩ := ih (hpush hb hnone)
    refine ⟨last, ?_, ?_⟩
    · rw [ColumnBuilder.takeRows, hnext]
      exact hlast
    · rwa [List.append_assoc, List.singleton_append] at hall

/-- A pass over rows that are stored goes to the end, and the builder then keeps their cells. -/
lemma Keeps.takeRows {cells : List type.storage.Cell}
    (h : List.Forall₂ (fun row cell => type.encodeRow options row = .ok cell) rows cells)
    {b : ColumnBuilder type.storage} {first : List type.storage.Cell}
    (hb : b.Keeps type.nilEntry ordering first) :
    ∃ last, b.takeRows type.nilEntry (type.encodeValue options) rows = (.ok last, [])
      ∧ last.Keeps type.nilEntry ordering (first ++ cells) :=
  takeRows_of_forall₂ (P := fun cells b => b.Keeps type.nilEntry ordering cells)
    (fun hkeeps hnone => hkeeps.push hnone) h hb

/-- A builder that keeps cells has the column of the cells. -/
lemma Keeps.column_eq {b : ColumnBuilder type.storage} {cells : List type.storage.Cell}
    (h : b.Keeps type.nilEntry ordering cells)
    (hfit : (Column.ofCells type ordering cells).Addressable) :
    b.column = .ofCells type ordering cells := by
  obtain ⟨contents, tracker⟩ := b
  obtain ⟨rfl, htracker⟩ := h
  obtain rfl := htracker hfit
  rfl

/-- The cells of a builder make a column of each type that is stored so. -/
lemma Keeps.finish_eq {b : ColumnBuilder s} (h : b.Keeps type.nilEntry ordering cells)
    (hstorage : type.storage = s) (hfit : s.heapSize (s.ofCells cells) < 2 ^ 64) :
    b.finish type = .ok (.ofCells type ordering (hstorage ▸ cells)) := by
  subst hstorage
  rw [ColumnBuilder.finish_eq, h.column_eq hfit]

/-- A pass stops at the first row that is not stored, and leaves the rows behind it. -/
lemma takeRows_of_stopsAt {failure : MarshalError}
    (h : StopsAt (type.encodeRow options) rows failure rest) (b : ColumnBuilder type.storage) :
    b.takeRows type.nilEntry (type.encodeValue options) rows = (.error failure, rest) := by
  induction rows generalizing b with
  | nil => exact absurd h not_stopsAt_nil
  | cons row rows ih =>
    rw [takeRows]
    cases hrow : type.encodeRow options row with
    | error own =>
      obtain ⟨rfl, rfl⟩ := (stopsAt_cons_of_error hrow).mp h
      rw [takeRow_of_error b hrow]
    | ok cell =>
      obtain ⟨isNone, -, hnext⟩ := takeRow_of_ok hrow
      rw [hnext]
      exact ih ((stopsAt_cons_of_ok hrow).mp h) _

/-- A pass that goes to the end has stored a cell for each row, and what pushing a cell preserves holds
there. -/
lemma exists_cells_of_takeRows {P : List type.storage.Cell → ColumnBuilder type.storage → Prop}
    (hpush : ∀ {first : List type.storage.Cell} {b : ColumnBuilder type.storage} {isNone : Bool}
      {cell : type.storage.Cell}, P first b → (type.storage = .heap → isNone = type.isNilCell cell) →
        P (first ++ [cell]) (b.push isNone cell))
    {b last : ColumnBuilder type.storage} (hb : P [] b)
    (h : (b.takeRows type.nilEntry (type.encodeValue options) rows).1 = .ok last) :
    ∃ cells, List.Forall₂ (fun row cell => type.encodeRow options row = .ok cell) rows cells
      ∧ P cells last := by
  cases hcells : rows.mapM (type.encodeRow options) with
  | error failure =>
    obtain ⟨rest, hstops⟩ := mapM_eq_error_iff.mp hcells
    rw [takeRows_of_stopsAt hstops] at h
    cases h
  | ok cells =>
    have hall := mapM_eq_ok_iff.mp hcells
    obtain ⟨final, hfinal, hP⟩ := takeRows_of_forall₂ hpush hall hb
    rw [hfinal] at h
    obtain rfl := Except.ok.inj h
    exact ⟨cells, hall, hP⟩

end ColumnBuilder

namespace Column

variable {type : LogicalType} {options : MarshalOptions}
  {rows rest : List (Except MarshalError (Option HostValue))}

lemma build_eq_error_iff {failure : MarshalError} :
    build type options rows = .error failure
      ↔ ∃ rest, StopsAt (type.encodeRow options) rows failure rest := by
  rw [← mapM_eq_error_iff]
  have hbuild : build type options rows
      = (rows.mapM (type.encodeRow options)).map (ofCells type options.nullOrdering) := rfl
  rw [hbuild]
  cases rows.mapM (type.encodeRow options) with
  | error own => rw [Except.map, Except.error.injEq, Except.error.injEq]
  | ok cells => exact iff_of_false nofun nofun

lemma buildForward_eq (type : LogicalType) (options : MarshalOptions)
    (rows : List (Except MarshalError (Option HostValue))) :
    buildForward type options rows =
      ((ColumnBuilder.start type.storage options.nullOrdering).takeRows type.nilEntry
        (type.encodeValue options) rows).map (·.map ColumnBuilder.column) id := by
  rw [buildForward, LogicalType.writer_eq, buildWith]
  rcases ColumnBuilder.takeRows _ _ _ _ with ⟨_ | b, rest⟩
  · rfl
  · exact Prod.ext b.finish_eq rfl

/-- A pass stops where a row cannot be stored. -/
lemma buildForward_of_stopsAt {failure : MarshalError}
    (h : StopsAt (type.encodeRow options) rows failure rest) :
    buildForward type options rows = (.error failure, rest) := by
  rw [buildForward_eq, ColumnBuilder.takeRows_of_stopsAt h]
  rfl

/-- A pass over rows that are stored gives a column, which is theirs where the heap has addresses. -/
lemma buildForward_of_build {c : Column} (h : build type options rows = .ok c) :
    ∃ d, buildForward type options rows = (.ok d, []) ∧ (c.Addressable → d = c) := by
  obtain ⟨cells, hcells, rfl⟩ := build_eq_ok_iff.mp h
  obtain ⟨last, hlast, hkeeps⟩ := ColumnBuilder.Keeps.takeRows hcells
    (ColumnBuilder.Keeps.start type.storage type.nilEntry options.nullOrdering)
  refine ⟨last.column, ?_, hkeeps.column_eq⟩
  rw [buildForward_eq, hlast]
  rfl

lemma buildForward_of_addressable {c : Column} (h : build type options rows = .ok c)
    (hfit : c.Addressable) : buildForward type options rows = (.ok c, []) := by
  obtain ⟨d, hd, hsame⟩ := buildForward_of_build h
  rw [hd, hsame hfit]

/-! ### The first failure -/

variable {failure : MarshalError}

lemma fst_buildForward_eq_error_iff :
    (buildForward type options rows).1 = .error failure ↔ build type options rows = .error failure := by
  cases hbuild : build type options rows with
  | error own =>
    obtain ⟨rest, hstops⟩ := build_eq_error_iff.mp hbuild
    rw [buildForward_of_stopsAt hstops]
  | ok c =>
    obtain ⟨d, hd, -⟩ := buildForward_of_build hbuild
    rw [hd]
    exact iff_of_false nofun nofun

/-- A row is stored alone exactly if it is stored. -/
lemma fst_buildForward_singleton_eq_error_iff {row : Except MarshalError (Option HostValue)} :
    (buildForward type options [row]).1 = .error failure
      ↔ type.encodeRow options row = .error failure :=
  fst_buildForward_eq_error_iff.trans (build_eq_error_iff.trans exists_stopsAt_singleton_iff)

lemma buildForward_eq_error_iff :
    buildForward type options rows = (.error failure, rest)
      ↔ StopsAt (type.encodeRow options) rows failure rest := by
  refine ⟨fun h => ?_, buildForward_of_stopsAt⟩
  obtain ⟨left, hstops⟩ :=
    build_eq_error_iff.mp (fst_buildForward_eq_error_iff.mp (congrArg Prod.fst h))
  obtain rfl : left = rest := congrArg Prod.snd ((buildForward_of_stopsAt hstops).symm.trans h)
  exact hstops

/-- A pass gives a column only if the rows have one. -/
lemma exists_build_of_buildForward {c : Column} (h : (buildForward type options rows).1 = .ok c) :
    ∃ built, build type options rows = .ok built :=
  (exists_ok_congr fun _ => fst_buildForward_eq_error_iff).mp ⟨c, h⟩

/-- A pass that gives a column has stored a cell for each row, and the column has these. -/
lemma exists_cells_of_buildForward {c : Column} (h : (buildForward type options rows).1 = .ok c) :
    ∃ cells, List.Forall₂ (fun row cell => type.encodeRow options row = .ok cell) rows cells
      ∧ c.data = ⟨type.storage, type.storage.ofCells cells⟩ := by
  rw [buildForward_eq] at h
  obtain ⟨last, hlast, rfl⟩ := map_eq_ok.mp h
  obtain ⟨cells, hcells, hkeeps⟩ := ColumnBuilder.exists_cells_of_takeRows
    (P := fun cells b => b.Keeps type.nilEntry options.nullOrdering cells)
    (fun hkeeps hnone => hkeeps.push hnone) (.start ..) hlast
  exact ⟨cells, hcells, congrArg (ColumnData.mk type.storage) hkeeps.contents_eq⟩

/-- A pass that gives a column has come to all rows. -/
lemma eq_nil_of_buildForward {c : Column} (h : buildForward type options rows = (.ok c, rest)) :
    rest = [] := by
  obtain ⟨built, hbuilt⟩ := exists_build_of_buildForward (congrArg Prod.fst h)
  obtain ⟨d, hd, -⟩ := buildForward_of_build hbuilt
  exact congrArg Prod.snd (h.symm.trans hd)

/-- What the builder of a type has always makes a column, in the storage of the type and either nullable
or without nil. -/
lemma exists_finish (type : LogicalType) (options : MarshalOptions)
    (b : ColumnBuilder (type.writer options).storage) : ∃ c, b.finish type = .ok c := by
  revert b
  rw [LogicalType.writer_eq]
  exact fun b => ⟨b.column, b.finish_eq⟩

/-- **The first failure decides, and nothing else.**  A pass over rows gives a column exactly if each row
gives one alone, and it has then come to all rows.  Otherwise it stops at the first row that gives none
alone, with the failure of that row, and leaves the rows behind.  A column whose heap has 64-bit addresses
is the one that `Column.build` gives.  What a builder has at any time is stored as the type wants it, for
decimals of every precision as well, and is either nullable or without nil, so the check at the end never
fails. -/
theorem buildForward_firstFailure (type : LogicalType) (options : MarshalOptions)
    (rows : List (Except MarshalError (Option HostValue))) :
    let alone := fun row => (buildForward type options [row]).1
    ((∃ c, (buildForward type options rows).1 = .ok c) ↔ ∀ row ∈ rows, ∃ c, alone row = .ok c)
      ∧ (∀ failure rest, buildForward type options rows = (.error failure, rest)
          ↔ StopsAt alone rows failure rest)
      ∧ (∀ c rest, buildForward type options rows = (.ok c, rest) → rest = [])
      ∧ (∀ failure, (buildForward type options rows).1 = .error failure
          ↔ build type options rows = .error failure)
      ∧ (∀ c, build type options rows = .ok c → c.Addressable →
          buildForward type options rows = (.ok c, []))
      ∧ (type.writer options).storage = type.storage
      ∧ ∀ b : ColumnBuilder (type.writer options).storage,
          b.tracker.flags.nullable = (!b.tracker.flags.nonNil) ∧ ∃ c, b.finish type = .ok c := by
  intro alone
  have halone : ∀ row failure, alone row = .error failure ↔ type.encodeRow options row = .error failure :=
    fun _ _ => fst_buildForward_singleton_eq_error_iff
  refine ⟨?_, fun _ _ => ?_, fun _ _ => eq_nil_of_buildForward, fun _ => fst_buildForward_eq_error_iff,
    fun _ => buildForward_of_addressable, by rw [LogicalType.writer_eq], fun b =>
      ⟨b.tracker.nullable_flags, exists_finish type options b⟩⟩
  · rw [exists_ok_congr fun _ => fst_buildForward_eq_error_iff, exists_build_iff]
    exact forall₂_congr fun row _ => (exists_ok_congr (halone row)).symm
  · exact buildForward_eq_error_iff.trans (stopsAt_congr halone).symm

/-- A pass over row identifiers stops at a text that names no row and leaves the lost row behind it; texts
with a nil row, of a heap that is small, are built to the end. -/
theorem buildForward_firstFailure_rowIds :
    buildForward .oid {} [.ok (some (.string "7@0")), .ok none, .ok (some (.string "x")),
        .error (.host "gone")]
        = (.error (.malformedRowId "x"), [.error (.host "gone")])
      ∧ ∃ c, build .string {} [.ok (some (.string "b")), .ok none] = .ok c ∧ c.Addressable
        ∧ buildForward .string {} [.ok (some (.string "b")), .ok none] = (.ok c, [])
        ∧ c.flags = ⟨true, false, false, true⟩ := by
  have hids := (buildForward_firstFailure .oid {} [.ok (some (.string "7@0")), .ok none,
    .ok (some (.string "x")), .error (.host "gone")]).2.1
  have htexts := (buildForward_firstFailure .string {} [.ok (some (.string "b")), .ok none]).2.2.2.2.1
  refine ⟨(hids _ _).mpr ⟨[.ok (some (.string "7@0")), .ok none], .ok (some (.string "x")), rfl, ?_, rfl⟩,
    ?_⟩
  · rw [List.forall_mem_cons, List.forall_mem_singleton]
    exact ⟨⟨_, rfl⟩, _, rfl⟩
  · have hfit : (ofCells .string .first [.payload "b".toByteArray, .nilString]).Addressable := by decide
    exact ⟨_, rfl, hfit, htexts _ rfl hfit, rfl⟩

end Column

end ColumnBridge
