import ColumnBridge.Proofs.Stored.StoreRead

/-!
Which host values a column keeps as nil.

Each type hides the cell that stands for nil behind a codec of its own.  Few values are stored in that
cell, and they can be told without cells, options or rounding:

* `LogicalType.StandsForNil`: the values that a column of a type keeps as nil, and `LogicalType.neverNil`:
  the types without such values;
* `LogicalType.isNilCell_encodeValue_iff`: a cell that stores a value is nil exactly if the value stands
  for nil;
* `Column.isNil_build_iff`: the same for the rows of a built column, however it is read.
-/

namespace ColumnBridge

namespace LogicalType

/-- The values that a column of a type keeps as nil: the smallest integer of its width, a NaN, the text of
no row, and every millisecond of the first day that a column of dates could hold. -/
def StandsForNil : LogicalType → HostValue → Prop
  | tinyInt, .byte x => x = Int8.minValue
  | smallInt, .short x => x = Int16.minValue
  | int, .integer x => x = Int32.minValue
  | bigInt, .long x => x = Int64.minValue
  | real, .float x => x.isNaN = true
  | double, .double x => x.isNaN = true
  | oid, .string s => s = RowId.nilText
  | date, .date ms => HostClock.dayOfMs ms.toInt = -2147483648
  | _, _ => False

/-- The types in which no value stands for nil. -/
def neverNil : LogicalType → Bool
  | boolean | time | timestamp | decimal _ | string | blob => true
  | _ => false

variable {options reading : MarshalOptions} {t : LogicalType} {v : HostValue} {c : t.storage.Cell}

lemma not_standsForNil_of_neverNil (h : t.neverNil = true) (v : HostValue) : ¬ t.StandsForNil v := by
  cases t <;> first | exact id | cases h

/-- A date is stored in the nil of its width exactly on the first day. -/
lemma eq_minValue_iff_of_msToDate {ms : Int64} {day : Int32} (h : HostClock.msToDate ms = .ok day) :
    day = Int32.minValue ↔ HostClock.dayOfMs ms.toInt = -2147483648 := by
  rw [← HostClock.msToDate_eq_ok_iff.mp h, ← Int32.toInt_inj]
  rfl

/-- A stored value is kept as none exactly if it stands for nil. -/
lemma canonicalValue_eq_none_iff (h : t.encodeValue options v = .ok c) :
    t.canonicalValue options v = .ok none ↔ t.StandsForNil v := by
  have hif : ∀ {p : Prop} [Decidable p] {w : HostValue},
      (.ok (if p then none else some w) : Except (Halt MarshalError) (Option HostValue)) = .ok none ↔ p := by
    simp
  have hsome (w : HostValue) :
      (.ok (some w) : Except (Halt MarshalError) (Option HostValue)) ≠ .ok none := by
    simp
  have hoverflow : (.error .overflow : Except (Halt MarshalError) (Option HostValue)) ≠ .ok none := by
    simp
  have hkind := kind_of_encodeValue h
  cases t with
  | boolean | string | blob =>
    cases v <;> cases hkind
    exact iff_of_false (hsome _) id
  | tinyInt | smallInt | int | bigInt | real | double | oid =>
    cases v <;> cases hkind
    exact hif
  | date =>
    cases v with
    | date ms =>
      have hday : HostClock.msToDate ms = .ok c := h
      rw [canonicalValue, hday]
      exact hif.trans (eq_minValue_iff_of_msToDate hday)
    | _ => cases hkind
  | time =>
    cases v with
    | time ms =>
      have hmicros : HostClock.msToTime ms options.timeBias = .ok c := h
      rw [canonicalValue, hmicros, Halt.lift_ok_bind, HostClock.timeToMs_msToTime hmicros]
      exact iff_of_false (hsome _) id
    | _ => cases hkind
  | timestamp =>
    cases v with
    | timestamp ms =>
      have hmicros : HostClock.msToTimestamp ms options.timeBias = .ok c := h
      rw [canonicalValue, hmicros, Halt.lift_ok_bind]
      cases HostClock.timestampToMs c options.timeBias with
      | none => exact iff_of_false hoverflow id
      | some ms => exact iff_of_false (hsome _) id
    | _ => cases hkind
  | decimal spec =>
    cases v with
    | decimal d =>
      rw [canonicalValue, encodeValue_decimal_eq_ok_iff.mp h]
      exact iff_of_false (hsome _) id
    | _ => cases hkind

/-- A cell that stores a value is nil exactly if the value stands for nil. -/
lemma isNilCell_encodeValue_iff (h : t.encodeValue options v = .ok c) :
    t.isNilCell c = true ↔ t.StandsForNil v := by
  calc t.isNilCell c = true
      ↔ t.read options c = .ok none := read_eq_ok_none_iff.symm
    _ ↔ t.canonicalValue options v = .ok none := by rw [read_encodeValue h]
    _ ↔ t.StandsForNil v := canonicalValue_eq_none_iff h

/-- Whether a cell decodes to a failure does not depend on the options. -/
lemma decode_eq_failure_iff {e : MarshalError} :
    t.decode options c = .error (.failure e) ↔ t.decode reading c = .error (.failure e) := by
  have hsteps (ms : Option Int64) (f : Int64 → HostValue) :
      (Halt.unlessOverflow ms : Except (Halt MarshalError) Int64).map f ≠ .error (.failure e) := by
    cases ms <;> simp [Halt.unlessOverflow, Except.map]
  cases t with
  | time | timestamp => exact iff_of_false (hsteps _ _) (hsteps _ _)
  | string | blob => cases c <;> exact Iff.rfl
  | _ => exact Iff.rfl

/-- A stored value that does not stand for nil is read as a value, with any options, unless its host
milliseconds have no room. -/
lemma read_of_not_standsForNil (h : t.encodeValue options v = .ok c) (hv : ¬ t.StandsForNil v)
    (reading : MarshalOptions) :
    (∃ w, t.read reading c = .ok (some w)) ∨ t.read reading c = .error .overflow := by
  have hnil : t.isNilCell c = false := Bool.eq_false_iff.mpr (mt (isNilCell_encodeValue_iff h).mp hv)
  have hkept := read_encodeValue h
  rw [read_of_not_nil hnil] at hkept ⊢
  cases hdecode : t.decode reading c with
  | ok w => exact .inl ⟨w, rfl⟩
  | error e =>
    cases e with
    | overflow => exact .inr rfl
    | failure e =>
      rw [decode_eq_failure_iff.mpr hdecode] at hkept
      rcases canonicalValue_eq_ok_or_overflow h with ⟨kept, hok⟩ | ⟨-, hoverflow⟩
      · cases hkept.trans hok
      · cases hkept.trans hoverflow

end LogicalType

namespace Column

variable {type : LogicalType} {options : MarshalOptions}

/-- A row that was built from a value has a cell that stores the value. -/
lemma exists_cell_of_build {rows : List (Except MarshalError (Option HostValue))} {c : Column}
    (h : build type options rows = .ok c) (hfit : c.Addressable) {r : ℕ} {v : HostValue}
    (hr : rows[r]? = some (.ok (some v))) :
    ∃ x : type.storage.Cell, type.encodeValue options v = .ok x
      ∧ c.isNil r = .ok (type.isNilCell x)
      ∧ ∀ reading, c.read reading r = type.read reading x := by
  obtain ⟨cells, hcells, rfl⟩ := build_eq_ok_iff.mp h
  obtain ⟨x, hx, hstored⟩ := exists_getElem?_of_forall₂ hcells hr
  refine ⟨x, hstored, ?_, fun reading => read_ofCells hfit hx⟩
  rw [isNil, cell_ofCells hfit hx]
  rfl

/-- **No silent null.**  Whatever the other rows are, a row that was built from a value is nil exactly if
the value stands for nil, and it is read as none, with any options, exactly then; otherwise it is read as
a value, unless its host milliseconds have no room under the options.  In a column of truth values, times,
timestamps, decimals, strings or blobs no value at all is read as none. -/
theorem isNil_build_iff {rows : List (Except MarshalError (Option HostValue))} {c : Column}
    (h : build type options rows = .ok c) (hfit : c.Addressable) {r : ℕ} {v : HostValue}
    (hr : rows[r]? = some (.ok (some v))) :
    (c.isNil r = .ok true ↔ type.StandsForNil v)
      ∧ (c.isNil r = .ok false ↔ ¬ type.StandsForNil v)
      ∧ (∀ reading, c.read reading r = .ok none ↔ type.StandsForNil v)
      ∧ (¬ type.StandsForNil v → ∀ reading, (∃ w, c.read reading r = .ok (some w))
          ∨ c.read reading r = .error .overflow ∧ ¬ c.FetchFits reading)
      ∧ (type.neverNil = true → ∀ reading, (∃ w, c.read reading r = .ok (some w))
          ∨ c.read reading r = .error .overflow ∧ ¬ c.FetchFits reading) := by
  obtain ⟨x, hstored, hisNil, hread⟩ := exists_cell_of_build h hfit hr
  have hnil := LogicalType.isNilCell_encodeValue_iff hstored
  have hvalue : ¬ type.StandsForNil v → ∀ reading, (∃ w, c.read reading r = .ok (some w))
      ∨ c.read reading r = .error .overflow ∧ ¬ c.FetchFits reading := by
    intro hv reading
    rw [hread]
    refine (LogicalType.read_of_not_standsForNil hstored hv reading).imp_right fun hoverflow => ?_
    exact ⟨hoverflow, not_fetchFits_of_read ((hread reading).trans hoverflow)⟩
  refine ⟨?_, ?_, fun reading => ?_, hvalue, fun hnever => ?_⟩
  · rw [hisNil, Except.ok.injEq, hnil]
  · rw [hisNil, Except.ok.injEq, ← hnil, Bool.not_eq_true]
  · rw [hread, LogicalType.read_eq_ok_none_iff, hnil]
  · exact hvalue (LogicalType.not_standsForNil_of_neverNil hnever v)

/-- The last millisecond of the first day, behind a nil row, is kept as nil, and the millisecond after it
is not; nor is a blob of the one octet that a nil string has as its payload. -/
theorem isNil_build_iff_firstDay :
    ∃ c d, build .date {} [.ok none, .ok (some (.date (-185546397060000001))),
          .ok (some (.date (-185546397060000000)))] = .ok c
      ∧ build .blob {} [.ok (some (.bytes ⟨#[0x80]⟩)), .ok none] = .ok d
      ∧ c.Addressable ∧ d.Addressable
      ∧ c.isNil 1 = .ok true ∧ c.isNil 2 = .ok false
      ∧ ∃ w, d.read {} 0 = .ok (some w) := by
  have hdates : build .date {} [.ok none, .ok (some (.date (-185546397060000001))),
        .ok (some (.date (-185546397060000000)))]
      = .ok (ofCells .date .first [Int32.minValue, Int32.minValue, (-2147483647 : Int32)]) := by rfl
  have hblobs : build .blob {} [.ok (some (.bytes ⟨#[0x80]⟩)), .ok none]
      = .ok (ofCells .blob .first [.payload ⟨#[0x80]⟩, .nilBlob]) := rfl
  have hc : (ofCells .date .first
      [Int32.minValue, Int32.minValue, (-2147483647 : Int32)]).Addressable := by decide
  have hd : (ofCells .blob .first [.payload ⟨#[0x80]⟩, .nilBlob]).Addressable := by decide
  have hfirst := isNil_build_iff hdates hc (r := 1) rfl
  have hsecond := isNil_build_iff hdates hc (r := 2) rfl
  have hblob := isNil_build_iff hblobs hd (r := 0) rfl
  have hvalue := (hblob.2.2.2.2 rfl {}).resolve_right fun h => h.2 fun _ _ _ _ => trivial
  refine ⟨_, _, hdates, hblobs, hc, hd, hfirst.1.mpr ?_, hsecond.2.1.mpr ?_, hvalue⟩
  · exact (by decide +kernel : HostClock.dayOfMs (-185546397060000001) = -2147483648)
  · exact (by decide +kernel : ¬ HostClock.dayOfMs (-185546397060000000) = -2147483648)

end Column

end ColumnBridge
