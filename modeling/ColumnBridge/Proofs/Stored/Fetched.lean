import ColumnBridge.Column.Read
import ColumnBridge.Proofs.Failure
import ColumnBridge.Proofs.Text.Numerals
import ColumnBridge.Proofs.Time.FetchSteps
import ColumnBridge.RowCodec

/-!
What a fetch makes of the rows of any column.

The column need not come from a build: its slots, offsets and payloads may be anything.

* `LogicalType.read_eq_ok_none_iff`, `LogicalType.read_eq_ok_some_iff`: a cell is read as none exactly if
  it is nil, and else as what it decodes to;
* `LogicalType.kind_of_decode`: whatever a cell decodes to is a value of the host class of its type;
* `LogicalType.FetchFits`, `Column.FetchFits`: the host milliseconds of a cell, and of every row that is
  not nil, are machine integers, which `LogicalType.decode_eq_overflow_iff` says is all that may overflow;
* `Column.readAll`: all rows of a column, with `Column.readAll_eq_ok_iff`.
-/

namespace ColumnBridge

namespace LogicalType

variable {options : MarshalOptions} {t : LogicalType} {c : t.storage.Cell}

/-- A cell is read as none exactly if it is nil. -/
lemma read_eq_ok_none_iff : t.read options c = .ok none ↔ t.isNilCell c = true := by
  rw [read]
  split
  · next h => exact iff_of_true rfl h
  · next h =>
    refine iff_of_false (fun hread => ?_) h
    obtain ⟨_, -, hsome⟩ := map_eq_ok.mp hread
    cases hsome

/-- A cell is read as a value exactly if it is not nil and decodes to the value. -/
lemma read_eq_ok_some_iff {v : HostValue} :
    t.read options c = .ok (some v) ↔ t.isNilCell c = false ∧ t.decode options c = .ok v := by
  rw [read]
  split
  · next h =>
    refine iff_of_false nofun fun hboth => ?_
    rw [hboth.1] at h
    cases h
  · next h =>
    rw [map_eq_ok]
    simp only [Option.some.injEq, exists_eq_right, Bool.eq_false_iff.mpr h, true_and]

/-- A cell that is not nil is read as what it decodes to. -/
lemma read_of_not_nil (h : t.isNilCell c = false) : t.read options c = (t.decode options c).map some := by
  rw [read, h, if_neg Bool.false_ne_true]

/-- A decimal cell decodes to its number at the scale of the column. -/
lemma decode_decimal {spec : DecimalSpec} (x : (decimal spec).storage.Cell) :
    (decimal spec).decode options x = .ok (.decimal ⟨spec.width.toInt x, spec.scale⟩) := by
  rw [decode, Decimal.ofStored_eq]
  rfl

/-- A cell decodes to a value of the host class of its type. -/
theorem kind_of_decode {v : HostValue} (h : t.decode options c = .ok v) : v.kind = t.hostKind := by
  cases t with
  | time | timestamp | decimal _ =>
    obtain ⟨_, -, rfl⟩ := map_eq_ok.mp h
    rfl
  | string =>
    cases c with
    | nilBlob => cases h
    | payload bytes =>
      obtain ⟨s, -, rfl⟩ := map_eq_ok.mp h
      rfl
  | blob =>
    cases c with
    | nilBlob => cases h
    | payload bytes =>
      cases h
      rfl
  | _ =>
    cases h
    rfl

/-- The host milliseconds that a cell is fetched as are a machine integer. -/
def FetchFits (options : MarshalOptions) : (t : LogicalType) → t.storage.Cell → Prop
  | time, x => IntWidth.w64.InRange (HostClock.exactTimeMs (Int64.toInt x) options.timeBias.toInt)
  | timestamp, x =>
    IntWidth.w64.InRange (HostClock.exactTimestampMs (Int64.toInt x) options.timeBias.toInt)
  | _, _ => True

/-- Decoding overflows exactly where the host milliseconds of a time or timestamp have no room. -/
lemma decode_eq_overflow_iff : t.decode options c = .error .overflow ↔ ¬ t.FetchFits options c := by
  cases t with
  | time =>
    rw [decode, map_eq_error, Halt.unlessOverflow_eq_overflow]
    exact HostClock.timeToMs_eq_none_iff
  | timestamp =>
    rw [decode, map_eq_error, Halt.unlessOverflow_eq_overflow]
    exact HostClock.timestampToMs_eq_none_iff
  | decimal spec =>
    rw [decode, map_eq_error]
    exact iff_of_false (Halt.lift_ne_overflow _) (not_not.mpr trivial)
  | string =>
    cases c with
    | nilBlob => exact iff_of_false nofun (not_not.mpr trivial)
    | payload bytes =>
      rw [decode, map_eq_error]
      exact iff_of_false (Halt.lift_ne_overflow _) (not_not.mpr trivial)
  | blob => cases c <;> exact iff_of_false nofun (not_not.mpr trivial)
  | _ => exact iff_of_false nofun (not_not.mpr trivial)

/-- So does reading, on a cell that is not nil. -/
lemma read_eq_overflow_iff :
    t.read options c = .error .overflow ↔ t.isNilCell c = false ∧ ¬ t.FetchFits options c := by
  cases hnil : t.isNilCell c with
  | true =>
    rw [read_eq_ok_none_iff.mpr hnil]
    exact iff_of_false nofun fun h => Bool.false_ne_true h.1.symm
  | false =>
    rw [read_of_not_nil hnil, map_eq_error, decode_eq_overflow_iff]
    exact (and_iff_right rfl).symm

end LogicalType

namespace Column

variable {c : Column} {options : MarshalOptions}

/-- The host milliseconds of every row that is not nil are machine integers. -/
def FetchFits (c : Column) (options : MarshalOptions) : Prop :=
  ∀ (row : ℕ) (x : c.type.storage.Cell), c.cell row = .ok x → c.type.isNilCell x = false →
    c.type.FetchFits options x

/-- The host values of all rows, in order. -/
def readAll (c : Column) (options : MarshalOptions) :
    Except (Halt MarshalError) (List (Option HostValue)) :=
  (List.range c.count).mapM (c.read options)

/-- All rows are read exactly if every one of them is. -/
lemma readAll_eq_ok_iff {values : List (Option HostValue)} :
    c.readAll options = .ok values ↔
      values.length = c.count
        ∧ ∀ (row : ℕ) (v : Option HostValue), values[row]? = some v → c.read options row = .ok v :=
  mapM_range_eq_ok_iff

/-- Reading a row is reading its cell. -/
lemma read_eq_of_cell {row : ℕ} {x : c.type.storage.Cell} (h : c.cell row = .ok x) :
    c.read options row = c.type.read options x := by
  rw [read, h]
  rfl

/-- A row that overflows is one whose host milliseconds have no room. -/
lemma not_fetchFits_of_read {row : ℕ} (h : c.read options row = .error .overflow) :
    ¬ c.FetchFits options := by
  intro hfits
  cases hcell : c.cell row with
  | error e =>
    rw [read, hcell] at h
    cases h
  | ok x =>
    rw [read_eq_of_cell hcell, LogicalType.read_eq_overflow_iff] at h
    exact h.2 (hfits row x hcell h.1)

/-- A row that is read has a cell. -/
lemma exists_cell_of_read {row : ℕ} {v : Option HostValue} (h : c.read options row = .ok v) :
    ∃ x, c.cell row = .ok x ∧ c.type.read options x = .ok v := by
  obtain ⟨x, hx, hread⟩ := bind_eq_ok.mp h
  exact ⟨x, Halt.lift_eq_ok.mp hx, hread⟩

end Column

end ColumnBridge
