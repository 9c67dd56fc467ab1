import ColumnBridge.Proofs.Arrow.Agreement
import ColumnBridge.Proofs.Flags.Exact

/-!
Batches of built columns.

The field of a column is declared by a flag from the time of the build, and its nulls are found by the
export anew; a text was written when a row was stored, and is read by the export. For built columns all
of this fits together, so that only columns of different lengths make no batch.

* `Column.exists_toArrow_of_built`, `Column.nullable_iff_null_mem`: a built column is exported, and is
  flagged as nullable exactly if the array has a null;
* `RecordBatch.Shows`: a column of a batch shows a named column;
* `RecordBatch.make_eq`: without nulls in fields that are not nullable, only the lengths count;
* `RecordBatch.ofColumns_built`: built columns make a batch exactly if they have equally many rows, and
  the batch shows them in order.
-/

namespace ColumnBridge

/-! ### Built columns are exported -/

namespace LogicalType

variable {options : MarshalOptions} {t : LogicalType} {c : t.storage.Cell}

/-- The entry of a cell is null exactly if the cell is nil. -/
lemma arrowEntry_eq_ok_none_iff : t.arrowEntry c = .ok none ↔ t.isNilCell c = true := by
  rw [arrowEntry]
  split
  · next h => exact iff_of_true rfl h
  · next h =>
    refine iff_of_false (fun hentry => ?_) h
    obtain ⟨_, -, hsome⟩ := map_eq_ok.mp hentry
    cases hsome

/-- A cell that has an Arrow value has an entry. -/
lemma exists_arrowEntry_of_value (h : ∃ x, t.arrowValue c = .ok x) :
    ∃ entry, t.arrowEntry c = .ok entry := by
  obtain ⟨x, hx⟩ := h
  rw [arrowEntry, hx]
  split
  · exact ⟨none, rfl⟩
  · exact ⟨some x, rfl⟩

/-- Only texts can fail to be exported. -/
lemma exists_arrowEntry_of_ne_string (h : t ≠ .string) (c : t.storage.Cell) :
    ∃ entry, t.arrowEntry c = .ok entry := by
  refine exists_arrowEntry_of_value ?_
  cases t with
  | string => exact absurd rfl h
  | _ => exact ⟨_, rfl⟩

/-- What a row stores for a host value, or for none, is exported. -/
lemma exists_arrowEntry_of_encode {v : Option HostValue} (h : t.encode options v = .ok c) :
    ∃ entry, t.arrowEntry c = .ok entry := by
  by_cases ht : t = .string
  · subst ht
    cases v with
    | none =>
      cases h
      exact ⟨none, arrowEntry_eq_ok_none_iff.mpr (isNilCell_nilCell .string)⟩
    | some v =>
      have hkind := kind_of_encodeValue h
      cases v with
      | string s =>
        cases h
        refine exists_arrowEntry_of_value ⟨.utf8 s, ?_⟩
        rw [arrowValue, decodeText, Text.Utf8.decode_toByteArray]
        rfl
      | _ => cases hkind
  · exact exists_arrowEntry_of_ne_string ht c

end LogicalType

namespace Column

variable {type : LogicalType} {options : MarshalOptions} {c : Column}

/-- A built column consists of cells that are exported. -/
lemma Built.exists_exported_cells (h : Built type options c) :
    ∃ cells, c = ofCells type options.nullOrdering cells
      ∧ ∀ x ∈ cells, ∃ entry, type.arrowEntry x = .ok entry := by
  have hcells := h.exists_cells
  cases h with
  | ofRows h =>
    obtain ⟨cells, hstored, hc⟩ := build_eq_ok_iff.mp h
    refine ⟨cells, hc.symm, fun x hx => ?_⟩
    obtain ⟨i, hi⟩ := List.mem_iff_getElem?.mp hx
    obtain ⟨row, -, hrow⟩ := exists_getElem?_of_forall₂ hstored.flip hi
    obtain ⟨v, -, hv⟩ := bind_eq_ok.mp hrow
    exact LogicalType.exists_arrowEntry_of_encode hv
  | @ofArray e values _ h =>
    obtain ⟨cells, hc⟩ := hcells
    refine ⟨cells, hc, fun x _ => LogicalType.exists_arrowEntry_of_ne_string ?_ x⟩
    -- no flat array carries texts
    rintro rfl
    rw [Column.ofArray] at h
    split at h
    · next htype => cases e <;> cases htype
    · cases h

/-- A built column is exported. -/
lemma exists_toArrow_of_built (h : Built type options c) (hfit : c.Addressable) :
    ∃ a, c.toArrow = .ok a := by
  obtain ⟨cells, rfl, hexported⟩ := h.exists_exported_cells
  rw [exists_toArrow_iff, count_ofCells]
  intro row hrow
  obtain ⟨entry, hentry⟩ := hexported _ (List.getElem_mem hrow)
  exact ⟨_, entry, cell_ofCells hfit (List.getElem?_eq_getElem hrow), hentry⟩

/-- A null in an exported array stands for a nil row. -/
lemma null_mem_iff {a : ArrowArray} (ha : c.toArrow = .ok a) :
    none ∈ a.values ↔ ∃ row, c.isNil row = .ok true := by
  obtain ⟨-, hlength, hrows⟩ := toArrow_eq_ok_iff.mp ha
  constructor
  · intro hnull
    obtain ⟨row, hrow⟩ := List.mem_iff_getElem?.mp hnull
    obtain ⟨x, hx, hentry⟩ := hrows row none hrow
    exact ⟨row, map_eq_ok.mpr ⟨x, hx, LogicalType.arrowEntry_eq_ok_none_iff.mp hentry⟩⟩
  · rintro ⟨row, hnil⟩
    obtain ⟨x, hx, htrue⟩ := map_eq_ok.mp hnil
    have hlt : row < a.values.length := by
      rw [hlength]
      exact StorageKind.lt_rowCount_of_cell_eq_ok hx
    obtain ⟨y, hy, hentry⟩ := hrows row _ (List.getElem?_eq_getElem hlt)
    obtain rfl := Except.ok.inj (hx.symm.trans hy)
    rw [LogicalType.arrowEntry_eq_ok_none_iff.mpr htrue] at hentry
    exact List.mem_of_getElem? (Except.ok.inj hentry ▸ List.getElem?_eq_getElem hlt)

/-- A built column is flagged as nullable exactly if its array has a null. -/
lemma nullable_iff_null_mem (h : Built type options c) (hfit : c.Addressable) {a : ArrowArray}
    (ha : c.toArrow = .ok a) : c.flags.nullable = true ↔ none ∈ a.values :=
  (nullable_iff_of_built h hfit).trans (null_mem_iff ha).symm

end Column

/-! ### Batches -/

namespace RecordBatch

/-- A column of a batch shows a named column: it has its name, its Arrow type and its array, and is
nullable exactly if the array has a null. -/
structure Shows (entry : String × Column) (shown : ArrowField × ArrowArray) : Prop where
  name_eq : shown.1.name = entry.1
  type_eq : shown.1.type = entry.2.type.arrowType
  nullable_iff : shown.1.nullable = true ↔ none ∈ shown.2.values
  array_eq : entry.2.toArrow = .ok shown.2

/-- The failure of columns with different numbers of rows. -/
def unequalLengths : MarshalError :=
  invalid "all columns in a record batch must have the same length"

/-- Where no field denies the nulls of its array, columns make a batch exactly if their arrays are of one
length. -/
lemma make_eq {columns : List (ArrowField × ArrowArray)}
    (h : ∀ c ∈ columns, c.1.nullable = true ↔ none ∈ c.2.values) :
    (∃ rows, make columns = .ok ⟨rows, columns⟩ ∧ ∀ c ∈ columns, c.2.values.length = rows)
      ∨ make columns = .error unequalLengths
        ∧ ∃ c ∈ columns, ∃ d ∈ columns, c.2.values.length ≠ d.2.values.length := by
  have hnone : (columns.find? fun c => !c.1.nullable && 0 < c.2.nullCount) = none := by
    rw [List.find?_eq_none]
    intro c hc hboth
    simp only [Bool.and_eq_true, Bool.not_eq_true', decide_eq_true_eq] at hboth
    obtain ⟨entry, hentry, hnull⟩ := List.countP_pos_iff.mp hboth.2
    rw [Option.isNone_iff_eq_none.mp hnull] at hentry
    rw [(h c hc).mpr hentry] at hboth
    cases hboth.1
  rw [make, hnone]
  dsimp only
  split
  · next hall =>
    refine .inl ⟨_, rfl, fun c hc => ?_⟩
    exact eq_of_beq (List.all_eq_true.mp hall c hc)
  · next hall =>
    refine .inr ⟨rfl, ?_⟩
    cases columns with
    | nil => exact absurd rfl hall
    | cons d columns =>
      simp only [List.all_eq_true, beq_iff_eq, not_forall] at hall
      obtain ⟨c, hc, hne⟩ := hall
      exact ⟨c, hc, d, List.mem_cons_self, hne⟩

/-- A named column that is built, with an addressable heap. -/
def IsBuilt (entry : String × Column) : Prop :=
  (∃ type options, Column.Built type options entry.2) ∧ entry.2.Addressable

/-- Built columns are exported, each to an array that shows it. -/
lemma exists_shown {columns : List (String × Column)} (h : ∀ entry ∈ columns, IsBuilt entry) :
    ∃ shown, List.Forall₂ Shows columns shown ∧ ofColumns columns = make shown := by
  have hsplit : ofColumns columns = (columns.mapM fun entry => do
      return (entry.2.type.field entry.1 entry.2.flags.nullable, ← entry.2.toArrow)) >>= make := rfl
  have hall : ∃ shown, (columns.mapM fun entry => do
      return (entry.2.type.field entry.1 entry.2.flags.nullable, ← entry.2.toArrow))
        = Except.ok shown := by
    refine exists_mapM_iff.mpr fun entry hentry => ?_
    obtain ⟨⟨_, _, hbuilt⟩, hfit⟩ := h entry hentry
    obtain ⟨a, ha⟩ := Column.exists_toArrow_of_built hbuilt hfit
    exact ⟨_, bind_eq_ok.mpr ⟨a, ha, rfl⟩⟩
  obtain ⟨shown, hshown⟩ := hall
  refine ⟨shown, ?_, by rw [hsplit, hshown]; rfl⟩
  have hboth := (List.forall₂_and_left columns shown).mpr ⟨h, mapM_eq_ok_iff.mp hshown⟩
  refine hboth.imp fun entry column hcolumn => ?_
  obtain ⟨⟨⟨_, _, hbuilt⟩, hfit⟩, hexport⟩ := hcolumn
  obtain ⟨a, ha, hpure⟩ := bind_eq_ok.mp hexport
  cases hpure
  exact ⟨rfl, rfl, Column.nullable_iff_null_mem hbuilt hfit ha, ha⟩

/-- The arrays that show columns have their lengths. -/
lemma lengths_eq {columns : List (String × Column)} {shown : List (ArrowField × ArrowArray)}
    (h : List.Forall₂ Shows columns shown) :
    columns.map (fun c => c.2.count) = shown.map fun s => s.2.values.length := by
  rw [← List.forall₂_eq_eq_eq, List.forall₂_map_left_iff, List.forall₂_map_right_iff]
  exact h.imp fun c s hs => (Column.toArrow_eq_ok_iff.mp hs.array_eq).2.1.symm

/-- **Batches of built columns.**  Built columns make a batch exactly if they have equally many rows, and
different numbers of rows are the only failure.  A batch shows the columns in order: each under its name,
with its type, and nullable exactly if its array has a null. -/
theorem ofColumns_built {columns : List (String × Column)} (h : ∀ entry ∈ columns, IsBuilt entry) :
    ((∃ batch, ofColumns columns = .ok batch)
        ↔ ∀ c ∈ columns, ∀ d ∈ columns, c.2.count = d.2.count)
      ∧ (∀ e, ofColumns columns = .error e → e = unequalLengths)
      ∧ ∀ batch, ofColumns columns = .ok batch →
          List.Forall₂ Shows columns batch.columns ∧ ∀ c ∈ columns, c.2.count = batch.rows := by
  obtain ⟨shown, hshown, hmake⟩ := exists_shown h
  have hnulls : ∀ s ∈ shown, s.1.nullable = true ↔ none ∈ s.2.values := by
    intro s hs
    obtain ⟨i, hi⟩ := List.mem_iff_getElem?.mp hs
    obtain ⟨entry, -, hentry⟩ := exists_getElem?_of_forall₂ hshown.flip hi
    exact hentry.nullable_iff
  have hcounts := lengths_eq hshown
  rcases make_eq hnulls with ⟨rows, hok, hrows⟩ | ⟨herror, s, hs, t, ht, hne⟩
  · have hall : ∀ c ∈ columns, c.2.count = rows := by
      intro c hc
      obtain ⟨s, hs, hlength⟩ := List.mem_map.mp (hcounts ▸ List.mem_map_of_mem hc)
      exact hlength.symm.trans (hrows s hs)
    rw [hmake, hok]
    refine ⟨iff_of_true ⟨_, rfl⟩ fun c hc d hd => (hall c hc).trans (hall d hd).symm, nofun, ?_⟩
    intro batch hbatch
    cases hbatch
    exact ⟨hshown, hall⟩
  · have hdiffer : ¬ ∀ c ∈ columns, ∀ d ∈ columns, c.2.count = d.2.count := by
      intro hall
      obtain ⟨c, hc, hcs⟩ := List.mem_map.mp (hcounts ▸ List.mem_map_of_mem hs)
      obtain ⟨d, hd, hdt⟩ := List.mem_map.mp (hcounts ▸ List.mem_map_of_mem ht)
      exact hne (hcs.symm.trans ((hall c hc d hd).trans hdt))
    rw [hmake, herror]
    refine ⟨iff_of_false nofun hdiffer, ?_, nofun⟩
    intro e he
    exact (Except.error.inj he).symm

/-- A flat array of doubles with a NaN and a column of texts with a nil row make a batch with two nullable
fields; with a third column of one row, which is not nullable, they make none. -/
theorem ofColumns_built_two :
    ∃ x s n, Column.ofArray .double .double {} #[(Binary.nan .double), Binary.zero .double] = .ok x
      ∧ Column.ofValues .string {} [none, some (.string "né")] = .ok s
      ∧ Column.ofArray .int .int {} #[(7 : Int32)] = .ok n
      ∧ (∃ batch, ofColumns [("x", x), ("s", s)] = .ok batch
          ∧ List.Forall₂ Shows [("x", x), ("s", s)] batch.columns ∧ batch.rows = 2
          ∧ batch.columns.map Prod.fst = [⟨"x", .float64, true⟩, ⟨"s", .utf8, true⟩])
      ∧ ofColumns [("x", x), ("s", s), ("n", n)] = .error unequalLengths := by
  have hx : IsBuilt ("x", Column.ofCells .double .first [Binary.nan .double, Binary.zero .double]) :=
    ⟨⟨.double, {}, @Column.Built.ofArray _ {} .double #[Binary.nan .double, Binary.zero .double] _ rfl⟩,
      by decide⟩
  have hs : IsBuilt ("s", Column.ofCells .string .first [.nilString, .payload "né".toByteArray]) :=
    ⟨⟨.string, {}, @Column.Built.ofRows _ {} [.ok none, .ok (some (.string "né"))] _ rfl⟩, by decide⟩
  have hn : IsBuilt ("n", Column.ofCells .int .first [(7 : Int32)]) :=
    ⟨⟨.int, {}, @Column.Built.ofArray _ {} .int #[(7 : Int32)] _ rfl⟩, by decide⟩
  have htwo := ofColumns_built (List.forall_mem_cons.mpr ⟨hx, List.forall_mem_singleton.mpr hs⟩)
  have hthree := ofColumns_built
    (List.forall_mem_cons.mpr ⟨hx, List.forall_mem_cons.mpr ⟨hs, List.forall_mem_singleton.mpr hn⟩⟩)
  refine ⟨_, _, _, rfl, rfl, rfl, ?_, ?_⟩
  · obtain ⟨batch, hbatch⟩ := htwo.1.mpr (by decide)
    obtain ⟨hshown, hrows⟩ := htwo.2.2 batch hbatch
    refine ⟨batch, hbatch, hshown, (hrows _ List.mem_cons_self).symm, ?_⟩
    cases hbatch
    rfl
  · exact eq_error_of_forall (mt hthree.1.mp (by decide)) hthree.2.1

end RecordBatch

end ColumnBridge
