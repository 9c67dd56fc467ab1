import ColumnBridge.Proofs.Flags.Comparisons
import ColumnBridge.Proofs.Stored.EntryPoints

/-!
The rows that a builder looks up.

A builder compares the next row with one that it has stored.  Which one that is depends on what is nil
alone, and not on where a heap has its entries.

* `ColumnBuilder.Recalls`: the rows of a builder are those of a list of cells, and its tracker remembers the
  last of them that takes part in comparisons; `ColumnBuilder.Recalls.push` keeps it for one more cell;
* `ColumnBuilder.LooksBack`: what is looked up for the next row, and `ColumnBuilder.Recalls.looksBack`: it is
  a row that is there and is not nil;
* `ColumnBuilder.takeRows_append`, `ColumnBuilder.isBelow_takeRows`: what a pass does after its first rows;
* `ColumnBuilder.recalls_foldl_takeElement`: a pass over an array;
* `ColumnBuilder.looksUp_earlierValues`: the tracker, the builders and the flags together.
-/

namespace ColumnBridge.ColumnBuilder

/-! ### What a builder looks up -/

section Lookups

variable {s : StorageKind} {mark : HeapEntry} {ordering : NullOrdering} {cells : List s.Cell}
  {b : ColumnBuilder s}

/-- The rows of a builder are the stored form of cells, and its tracker remembers the last one that takes
part in comparisons. -/
structure Recalls (b : ColumnBuilder s) (mark : HeapEntry) (ordering : NullOrdering)
    (cells : List s.Cell) : Prop where
  contents_eq : b.contents = s.ofCells cells
  remembers : b.tracker.Remembers ordering (cells.map (s.isNilCell mark))

/-- What a builder that stores cells looks up for the next row, whatever that row is. -/
structure LooksBack (b : ColumnBuilder s) (mark : HeapEntry) (ordering : NullOrdering)
    (cells : List s.Cell) : Prop where
  contents_eq : b.contents = s.ofCells cells
  /-- A cell is taken in with its row number and some comparison. -/
  tracker_push : ∀ isNone cell, ∃ isNil answer, (b.push isNone cell).tracker
    = ((b.tracker.observeM cells.length isNil (SortTracker.noting answer)).run []).1
  /-- It is the row that the policy looks at, unless the next row is nil. -/
  asked_eq_singleton_iff : ∀ row isNil answer earlier, b.tracker.asked row isNil answer = [earlier]
    ↔ isNil = false ∧ ordering.LooksAt (cells.map (s.isNilCell mark)) earlier
  /-- No row is looked up that is not there or is nil. -/
  of_mem_asked : ∀ row isNil answer, ∀ earlier ∈ b.tracker.asked row isNil answer,
    earlier < s.rowCount b.contents ∧ ∃ cell, cells[earlier]? = some cell
      ∧ s.isNilCell mark cell = false
      ∧ (s.heapSize b.contents < 2 ^ 64 → s.cell b.contents earlier = .ok cell)

/-- The rows are the stored form of one more cell. -/
lemma contents_push (h : b.contents = s.ofCells cells) (isNone : Bool) (cell : s.Cell) :
    (b.push isNone cell).contents = s.ofCells (cells ++ [cell]) := by
  cases s with
  | fixed k =>
    rw [push, pushSlot, h]
    exact List.push_toArray cells cell
  | heap =>
    rw [push, pushEntry, h]
    exact (StorageKind.ofCells_heap_append cells cell).symm

namespace Recalls

/-- A builder without rows has nothing to remember. -/
lemma start (s : StorageKind) (mark : HeapEntry) (ordering : NullOrdering) :
    (ColumnBuilder.start s ordering).Recalls mark ordering [] :=
  ⟨rfl, .start ordering⟩

lemma rowCount_eq (h : b.Recalls mark ordering cells) : s.rowCount b.contents = cells.length := by
  rw [h.contents_eq, StorageKind.rowCount_ofCells]

/-- A cell is pushed; of an entry it has to be known whether it is the mark of nil. -/
lemma push (h : b.Recalls mark ordering cells) (isNone : Bool) (cell : s.Cell)
    (hnone : s = .heap → isNone = s.isNilCell mark cell) :
    (b.push isNone cell).Recalls mark ordering (cells ++ [cell]) where
  contents_eq := contents_push h.contents_eq isNone cell
  remembers := by
    have hnext := h.remembers.observe (s.isNilCell mark cell)
    rw [List.length_map, ← h.rowCount_eq] at hnext
    rw [List.map_append]
    cases s with
    | fixed k => exact hnext _
    | heap =>
      rw [ColumnBuilder.push, hnone rfl]
      exact hnext _

/-- What is looked up for the next row is there and is not nil. -/
lemma looksBack (h : b.Recalls mark ordering cells) : b.LooksBack mark ordering cells where
  contents_eq := h.contents_eq
  tracker_push isNone cell := by
    simp only [SortTracker.run_observeM_noting, ← h.rowCount_eq]
    cases s <;> exact ⟨_, _, rfl⟩
  asked_eq_singleton_iff row isNil answer _ := h.remembers.asked_eq_singleton_iff row isNil answer
  of_mem_asked row isNil answer earlier hasked := by
    have hvalue := (h.remembers.looksAt_of_mem_asked hasked).1
    rw [List.getElem?_map, Option.map_eq_some_iff] at hvalue
    obtain ⟨cell, hcell, hnil⟩ := hvalue
    rw [h.rowCount_eq, h.contents_eq]
    exact ⟨(List.getElem?_eq_some_iff.mp hcell).1, cell, hcell, hnil,
      fun hfit => StorageKind.cell_ofCells hfit hcell⟩

end Recalls

end Lookups

/-! ### A pass over rows -/

section Rows

variable {type : LogicalType} {options : MarshalOptions} {b last : ColumnBuilder type.storage}
  {rows : List (Except MarshalError (Option HostValue))}

/-- A longer pass goes on with the builder that a shorter one leaves. -/
lemma takeRows_append {s : StorageKind} {mark : HeapEntry} {write : HostValue → Except MarshalError s.Cell}
    {b last : ColumnBuilder s} (h : (b.takeRows mark write rows).1 = .ok last)
    (more : List (Except MarshalError (Option HostValue))) :
    b.takeRows mark write (rows ++ more) = last.takeRows mark write more := by
  induction rows generalizing b with
  | nil =>
    obtain rfl := Except.ok.inj h
    rfl
  | cons row rows ih =>
    rw [takeRows] at h
    rw [List.cons_append, takeRows]
    cases hrow : row >>= b.takeValue mark write with
    | error failure =>
      rw [hrow] at h
      cases h
    | ok next =>
      rw [hrow] at h
      exact ih h

/-- One more cell sets no flag again. -/
lemma isBelow_push {s : StorageKind} (b : ColumnBuilder s) (isNone : Bool) (cell : s.Cell) :
    (b.push isNone cell).tracker.flags.IsBelow b.tracker.flags := by
  cases s <;> exact ColumnFlags.isBelow_observe ..

/-- Neither do more rows. -/
lemma isBelow_takeRows (h : (b.takeRows type.nilEntry (type.encodeValue options) rows).1 = .ok last) :
    last.tracker.flags.IsBelow b.tracker.flags := by
  obtain ⟨_, -, hbelow⟩ := exists_cells_of_takeRows
    (P := fun _ later => later.tracker.flags.IsBelow b.tracker.flags)
    (fun hbelow _ => (isBelow_push ..).trans hbelow) (.refl _) h
  exact hbelow

end Rows

/-! ### A pass over an array -/

section Elements

variable {e : Element}

/-- The pass over an array looks back at the saved elements. -/
lemma recalls_foldl_takeElement (mark : HeapEntry) (ordering : NullOrdering) (elements : List e.Carrier) :
    (elements.zipIdx.foldl takeElement (start (.fixed e.slotKind) ordering)).Recalls mark ordering
      (elements.map e.save) := by
  induction elements using List.reverseRecOn with
  | nil => exact Recalls.start ..
  | append_singleton elements x ih =>
    have hcount : Array.size (elements.zipIdx.foldl takeElement (start _ ordering)).contents
        = elements.length := ih.rowCount_eq.trans (List.length_map _)
    have hpush := ih.push false (e.save x) nofun
    rw [push, hcount, ← foldl_takeElement_concat] at hpush
    rwa [List.map_append]

/-- More elements set no flag again. -/
lemma isBelow_foldl_takeElement (ordering : NullOrdering) (elements more : List e.Carrier) :
    let pass := fun elements : List e.Carrier =>
      elements.zipIdx.foldl takeElement (start (.fixed e.slotKind) ordering)
    (pass (elements ++ more)).tracker.flags.IsBelow (pass elements).tracker.flags := by
  intro pass
  induction more using List.reverseRecOn with
  | nil =>
    rw [List.append_nil]
    exact .refl _
  | append_singleton more x ih =>
    have hlast : pass (elements ++ (more ++ [x]))
        = (pass (elements ++ more)).pushSlot (elements ++ more).length (e.save x) := by
      rw [← List.append_assoc]
      exact foldl_takeElement_concat ..
    rw [hlast]
    exact (ColumnFlags.isBelow_observe ..).trans ih

end Elements

/-! ### Everything together -/

/-- **Only earlier values are looked up.**  Over rows with any nils, whatever comparisons answer, a
comparison is asked for exactly if the next row is not nil and there is a row to look at: the one in front of
it if that is not nil or, where nil takes part in no comparison, the last one that is not nil.  It is asked
about that row alone.  So it is in a builder, for host values of every type and for arrays, after any rows
with which a pass begins: a row that is looked up is there and is not nil.  Flags that are cleared stay
so. -/
theorem looksUp_earlierValues :
    (∀ (ordering : NullOrdering) (answer : ℕ → ℕ → Ordering) (nils : List Bool) (isNil : Bool),
        let t := SortTracker.watch ordering answer nils
        let compareWith := answer nils.length
        let asked := t.asked nils.length isNil compareWith
        (t.observeM nils.length isNil (SortTracker.noting compareWith)).run []
            = (SortTracker.watch ordering answer (nils ++ [isNil]), asked)
          ∧ (asked ≠ [] ↔ isNil = false ∧ match ordering with
            | .first => 0 < nils.length ∧ nils[nils.length - 1]? = some false
            | .skip => ∃ earlier < nils.length, nils[earlier]? = some false)
          ∧ (∀ earlier, asked = [earlier] ↔ isNil = false ∧ ordering.LooksAt nils earlier)
          ∧ ∀ more, (SortTracker.watch ordering answer (nils ++ more)).flags.IsBelow t.flags)
      ∧ (∀ (type : LogicalType) (options : MarshalOptions),
          let pass := fun b : ColumnBuilder type.storage =>
            b.takeRows type.nilEntry (type.encodeValue options)
          let first := start type.storage options.nullOrdering
          type.writer options = ⟨type.storage, type.encodeValue options⟩
            ∧ ∀ rows b, (pass first rows).1 = .ok b →
              (∃ cells, List.Forall₂ (fun row cell => type.encodeRow options row = .ok cell) rows cells
                ∧ b.LooksBack type.nilEntry options.nullOrdering cells)
              ∧ ∀ more, pass first (rows ++ more) = pass b more
                ∧ ∀ last, (pass b more).1 = .ok last → last.tracker.flags.IsBelow b.tracker.flags)
      ∧ ∀ (e : Element) (mark : HeapEntry) (ordering : NullOrdering) (elements more : List e.Carrier),
          let pass := fun elements : List e.Carrier =>
            elements.zipIdx.foldl takeElement (start (.fixed e.slotKind) ordering)
          (pass elements).LooksBack mark ordering (elements.map e.save)
            ∧ (pass (elements ++ more)).tracker.flags.IsBelow (pass elements).tracker.flags := by
  refine ⟨?_, ?_, ?_⟩
  · intro ordering answer nils isNil t compareWith asked
    have hremembers := SortTracker.remembers_watch answer ordering nils
    refine ⟨?_, ?_, fun earlier => hremembers.asked_eq_singleton_iff nils.length isNil compareWith,
      ColumnFlags.isBelow_watch_append ordering answer nils⟩
    · rw [SortTracker.run_observeM_noting, SortTracker.watch_append_singleton, ← SortTracker.asked_eq]
    · exact (hremembers.asked_ne_nil_iff nils.length isNil compareWith).trans
        (and_congr_right fun _ => ordering.exists_looksAt_iff nils)
  · intro type options pass first
    refine ⟨LogicalType.writer_eq options type, fun rows b hb => ⟨?_, fun more =>
      ⟨takeRows_append hb more, fun last => isBelow_takeRows⟩⟩⟩
    obtain ⟨cells, hcells, hrecalls⟩ := exists_cells_of_takeRows
      (P := fun cells b => b.Recalls type.nilEntry options.nullOrdering cells)
      (fun hrecalls hnone => hrecalls.push _ _ hnone) (.start ..) hb
    exact ⟨cells, hcells, hrecalls.looksBack⟩
  · intro e mark ordering elements more pass
    exact ⟨(recalls_foldl_takeElement mark ordering elements).looksBack,
      isBelow_foldl_takeElement ordering elements more⟩

/-- Behind a text and no text, of which the latter takes part in no comparison, a text is compared with the
first one. -/
theorem looksUp_earlierValues_texts :
    let rows : List (Except MarshalError (Option HostValue)) := [.ok (some (.string "b")), .ok none]
    let write := LogicalType.string.encodeValue { nullOrdering := .skip }
    ∃ b, ((start .heap .skip).takeRows .nilString write rows).1 = .ok b
      ∧ b.LooksBack .nilString .skip [.payload "b".toByteArray, .nilString]
      ∧ ∀ answer, b.tracker.asked 2 false answer = [0] := by
  intro rows write
  obtain ⟨b, hb⟩ : ∃ b, ((start .heap .skip).takeRows .nilString write rows).1 = .ok b := ⟨_, rfl⟩
  obtain ⟨⟨cells, hcells, hback⟩, -⟩ :=
    (looksUp_earlierValues.2.1 .string { nullOrdering := .skip }).2 rows b hb
  obtain rfl : [.payload "b".toByteArray, .nilString] = cells :=
    Except.ok.inj ((rfl : rows.mapM _ = _).symm.trans (mapM_eq_ok_iff.mpr hcells))
  refine ⟨b, hb, hback, fun answer => ?_⟩
  have hlatest : ∀ row, 0 < row → row < 2 → [false, true][row]? = some true := by
    intro row hpos hlt
    obtain rfl : row = 1 := by omega
    rfl
  exact (hback.asked_eq_singleton_iff 2 false answer 0).mpr ⟨rfl, rfl, hlatest⟩

end ColumnBridge.ColumnBuilder
