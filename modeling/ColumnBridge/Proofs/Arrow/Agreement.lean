import ColumnBridge.Arrow.Export
import ColumnBridge.Proofs.Stored.Fetched
import ColumnBridge.Proofs.Stored.Cells
import ColumnBridge.Proofs.Time.StoreFetch
import Mathlib.Data.Option.Basic

/-!
The Arrow export and the row reader, which read one format.

The column may hold anything that its storage can hold: offsets that lead to no entry, payloads that are
no text, nil blobs in a column of strings, flags that say nothing true.

* `LogicalType.Carries`: an Arrow value stands for the host value that a cell is read as;
* `LogicalType.arrowValue_agrees`, `LogicalType.arrowEntry_agrees`: on one cell the two readers succeed
  together, and agree;
* `Column.toArrow_agrees`: on a whole column, with the probe for nil.
-/

namespace ColumnBridge

namespace LogicalType

/-- An Arrow value stands for the host value that a cell is read as. Numbers, texts and octets are the same,
a decimal by its unscaled integer and a row identifier by its number; the value of a date, time or
timestamp is the slot, whose exact host milliseconds are the ones that are read. -/
def Carries (options : MarshalOptions) :
    (t : LogicalType) → t.storage.Cell → ArrowValue → HostValue → Prop
  | boolean, _, .boolean a, .boolean b => a = b
  | tinyInt, _, .int n, .byte x => n = x.toInt
  | smallInt, _, .int n, .short x => n = x.toInt
  | int, _, .int n, .integer x => n = x.toInt
  | bigInt, _, .int n, .long x => n = x.toInt
  | real, _, .float32 x, .float y => x = y
  | double, _, .float64 x, .double y => x = y
  | oid, _, .int n, .string s => ∃ id : ℕ, n = id ∧ s = toString id ++ "@0"
  | date, slot, .int n, .date ms => n = Int32.toInt slot ∧ ms.toInt = HostClock.dayToMs n
  | time, slot, .int n, .time ms =>
    n = Int64.toInt slot ∧ ms.toInt = HostClock.exactTimeMs n options.timeBias.toInt
  | timestamp, slot, .int n, .timestamp ms =>
    n = Int64.toInt slot ∧ ms.toInt = HostClock.exactTimestampMs n options.timeBias.toInt
  | decimal spec, _, .int n, .decimal d => n = d.unscaled ∧ d.scale = spec.scale
  | string, _, .utf8 s, .string s' => s = s'
  | blob, _, .binary b, .bytes b' => b = b'
  | _, _, _, _ => False

variable {options : MarshalOptions} {t : LogicalType} {c : t.storage.Cell}

/-- A cell that is not nil has an Arrow value and a host value that agree, or has neither. -/
lemma arrowValue_agrees (hnil : t.isNilCell c = false) (hfit : t.FetchFits options c) :
    (∃ x v, t.arrowValue c = .ok x ∧ t.decode options c = .ok v ∧ t.Carries options c x v)
      ∨ ∃ e e', t.arrowValue c = .error e ∧ t.decode options c = .error e' := by
  cases t with
  | boolean | tinyInt | smallInt | int | bigInt | real | double => exact .inl ⟨_, _, rfl, rfl, rfl⟩
  | oid => exact .inl ⟨_, _, rfl, rfl, UInt64.toNat c, rfl, RowId.render_eq c⟩
  | date => exact .inl ⟨_, _, rfl, rfl, rfl, HostClock.toInt_dateToMs c⟩
  | time =>
    obtain ⟨ms, hfetched, hvalue⟩ := HostClock.exists_timeToMs hfit
    rw [decode, hfetched]
    exact .inl ⟨_, _, rfl, rfl, rfl, hvalue⟩
  | timestamp =>
    obtain ⟨ms, hfetched, hvalue⟩ := HostClock.exists_timestampToMs hfit
    rw [decode, hfetched]
    exact .inl ⟨_, _, rfl, rfl, rfl, hvalue⟩
  | decimal spec => exact .inl ⟨_, _, rfl, decode_decimal c, rfl, rfl⟩
  | string =>
    cases c with
    | nilBlob => exact .inr ⟨_, _, rfl, rfl⟩
    | payload bytes =>
      rw [arrowValue, decode]
      cases decodeText bytes with
      | error e => exact .inr ⟨_, _, rfl, rfl⟩
      | ok s => exact .inl ⟨_, _, rfl, rfl, rfl⟩
  | blob =>
    cases c with
    | nilBlob => cases hnil
    | payload bytes => exact .inl ⟨_, _, rfl, rfl, rfl⟩

/-- Of any cell both readers give an entry, and the entries agree, or neither does. -/
lemma arrowEntry_agrees (hfit : t.isNilCell c = false → t.FetchFits options c) :
    (∃ entry v, t.arrowEntry c = .ok entry ∧ t.read options c = .ok v
        ∧ entry.isNone = t.isNilCell c ∧ Option.Rel (t.Carries options c) entry v)
      ∨ ∃ e e', t.arrowEntry c = .error e ∧ t.read options c = .error e' := by
  rw [arrowEntry, read]
  cases hnil : t.isNilCell c with
  | true => exact .inl ⟨none, none, rfl, rfl, rfl, .none⟩
  | false =>
    rw [if_neg Bool.false_ne_true, if_neg Bool.false_ne_true]
    rcases arrowValue_agrees hnil (hfit hnil) with ⟨x, v, hx, hv, hcarries⟩ | ⟨e, e', hx, hv⟩
    · rw [hx, hv]
      exact .inl ⟨some x, some v, rfl, rfl, rfl, .some hcarries⟩
    · rw [hx, hv]
      exact .inr ⟨e, e', rfl, rfl⟩

end LogicalType

namespace Column

variable {c : Column} {options : MarshalOptions}

/-- An array is exported exactly if every row has an Arrow entry, which stands at its place. -/
lemma toArrow_eq_ok_iff {a : ArrowArray} :
    c.toArrow = .ok a ↔
      a.type = c.type.arrowType ∧ a.values.length = c.count
        ∧ ∀ (row : ℕ) (entry : Option ArrowValue), a.values[row]? = some entry →
            ∃ x, c.cell row = .ok x ∧ c.type.arrowEntry x = .ok entry := by
  rw [toArrow, bind_eq_ok]
  simp only [mapM_range_eq_ok_iff, bind_eq_ok]
  constructor
  · rintro ⟨values, ⟨hlength, hrows⟩, hpure⟩
    cases hpure
    exact ⟨rfl, hlength, hrows⟩
  · rintro ⟨htype, hlength, hrows⟩
    exact ⟨a.values, ⟨hlength, hrows⟩, congrArg Except.ok (by rw [← htype])⟩

/-- An array is exported exactly if every row has an Arrow entry. -/
lemma exists_toArrow_iff :
    (∃ a, c.toArrow = .ok a) ↔
      ∀ row < c.count, ∃ x entry, c.cell row = .ok x ∧ c.type.arrowEntry x = .ok entry := by
  have hvalues : (∃ a, c.toArrow = .ok a) ↔ ∃ values, (List.range c.count).mapM
      (fun row => c.cell row >>= c.type.arrowEntry) = .ok values := by
    simp only [toArrow]
    constructor
    · rintro ⟨a, ha⟩
      obtain ⟨values, hvalues, -⟩ := bind_eq_ok.mp ha
      exact ⟨values, hvalues⟩
    · rintro ⟨values, hvalues⟩
      exact ⟨_, bind_eq_ok.mpr ⟨values, hvalues, rfl⟩⟩
  rw [hvalues, exists_mapM_range_iff]
  simp only [bind_eq_ok]
  exact forall₂_congr fun _ _ => exists_comm

/-- The probe of all rows looks at every row. -/
lemma probeAll_eq_ok_iff {nils : List Bool} :
    c.probeAll = .ok nils ↔
      nils.length = c.count ∧ ∀ (row : ℕ) (b : Bool), nils[row]? = some b → c.isNil row = .ok b := by
  have hrows : c.window 0 c.count = .ok ⟨0, c.count⟩ := by
    rw [window, zero_add, if_pos le_rfl]
  rw [probeAll, probe, hrows, ← mapM_range_eq_ok_iff, List.range_eq_range']
  rfl

/-- A row of which the export gives an entry is read, and the two agree. -/
lemma exists_read_of_arrowEntry (hfit : c.FetchFits options) {row : ℕ} {x : c.type.storage.Cell}
    {entry : Option ArrowValue} (hx : c.cell row = .ok x) (hentry : c.type.arrowEntry x = .ok entry) :
    c.isNil row = .ok entry.isNone
      ∧ ∃ v, c.read options row = .ok v ∧ Option.Rel (c.type.Carries options x) entry v := by
  rcases LogicalType.arrowEntry_agrees (hfit row x hx) with
    ⟨entry', v, hentry', hread, hnil, hrel⟩ | ⟨e, e', herror, -⟩
  · obtain rfl : entry' = entry := Except.ok.inj (hentry'.symm.trans hentry)
    refine ⟨?_, v, (read_eq_of_cell hx).trans hread, hrel⟩
    rw [isNil, hx, hnil]
    rfl
  · rw [herror] at hentry
    cases hentry

/-- **Two readers of one format.**  The export of a column succeeds exactly if every row of it is read.
Then the array has the Arrow type of the column and an entry for every row, its nulls are the rows that
the probe reports and that are read as none, and every other entry carries what its row is read as. -/
theorem toArrow_agrees (c : Column) (hfit : c.FetchFits options) :
    ((∃ a, c.toArrow = .ok a) ↔ ∀ row < c.count, ∃ v, c.read options row = .ok v)
      ∧ ∀ a, c.toArrow = .ok a →
          a.type = c.type.arrowType ∧ a.values.length = c.count
            ∧ c.probeAll = .ok (a.values.map Option.isNone)
            ∧ ∀ row < c.count, ∃ x entry v, c.cell row = .ok x ∧ a.values[row]? = some entry
                ∧ c.read options row = .ok v ∧ Option.Rel (c.type.Carries options x) entry v := by
  constructor
  · rw [exists_toArrow_iff]
    refine forall₂_congr fun row _ => ⟨?_, ?_⟩
    · rintro ⟨x, entry, hx, hentry⟩
      obtain ⟨-, v, hread, -⟩ := exists_read_of_arrowEntry hfit hx hentry
      exact ⟨v, hread⟩
    · rintro ⟨v, hv⟩
      obtain ⟨x, hx, hread⟩ := exists_cell_of_read hv
      rcases LogicalType.arrowEntry_agrees (hfit row x hx) with
        ⟨entry, -, hentry, -⟩ | ⟨e, e', -, herror⟩
      · exact ⟨x, entry, hx, hentry⟩
      · rw [herror] at hread
        cases hread
  · intro a ha
    obtain ⟨htype, hlength, hrows⟩ := toArrow_eq_ok_iff.mp ha
    refine ⟨htype, hlength, ?_, ?_⟩
    · rw [probeAll_eq_ok_iff, List.length_map]
      refine ⟨hlength, fun row b hb => ?_⟩
      rw [List.getElem?_map] at hb
      obtain ⟨entry, hentry, rfl⟩ := Option.map_eq_some_iff.mp hb
      obtain ⟨x, hx, harrow⟩ := hrows row entry hentry
      exact (exists_read_of_arrowEntry hfit hx harrow).1
    · intro row hrow
      have hentry := List.getElem?_eq_getElem (hlength ▸ hrow)
      obtain ⟨x, hx, harrow⟩ := hrows row _ hentry
      obtain ⟨-, v, hread, hrel⟩ := exists_read_of_arrowEntry hfit hx harrow
      exact ⟨x, _, v, hx, hentry, hread, hrel⟩

/-- A column of times with a negative slot and a nil that its flags deny is exported and read alike, and a
column of blobs whose offset leads behind the heap is neither exported nor read. -/
theorem toArrow_agrees_raw :
    (∃ c, make .time ⟨.fixed (.int .w64), (#[-1500, Int64.minValue, 45296000123] : Array Int64)⟩
          ⟨false, true, false, false⟩ = .ok c
        ∧ c.toArrow = .ok ⟨.time64, [some (.int (-1500)), none, some (.int 45296000123)]⟩
        ∧ c.probeAll = .ok [false, true, false]
        ∧ ∃ v, c.read {} 0 = .ok v
          ∧ Option.Rel (LogicalType.Carries {} .time (-1500 : Int64)) (some (.int (-1500))) v)
      ∧ ∃ c, make .blob ⟨.heap, ⟨#[8], Heap.empty.push .nilBlob⟩⟩ ⟨true, false, false, false⟩ = .ok c
        ∧ (¬ ∃ a, c.toArrow = .ok a) ∧ ¬ ∃ v, c.read {} 0 = .ok v := by
  constructor
  · have hfit : (Column.mk .time (#[-1500, Int64.minValue, 45296000123] : Array Int64)
        ⟨false, true, false, false⟩ rfl).FetchFits {} := by
      intro row x hx hnil
      have hrow : row < 3 := StorageKind.lt_rowCount_of_cell_eq_ok hx
      interval_cases row
      · cases hx
        exact (by decide : IntWidth.w64.InRange (HostClock.exactTimeMs (-1500) 3600000))
      · cases hx
        cases hnil
      · cases hx
        exact (by decide : IntWidth.w64.InRange (HostClock.exactTimeMs 45296000123 3600000))
    obtain ⟨-, hexport⟩ := toArrow_agrees _ hfit
    obtain ⟨-, -, hprobe, hrows⟩ :=
      hexport ⟨.time64, [some (.int (-1500)), none, some (.int 45296000123)]⟩ rfl
    obtain ⟨x, entry, v, hx, hentry, hv, hrel⟩ := hrows 0 (by decide)
    cases hx
    cases hentry
    exact ⟨_, rfl, rfl, hprobe, v, hv, hrel⟩
  · obtain ⟨hiff, -⟩ := @toArrow_agrees {}
      (Column.mk .blob ⟨#[8], Heap.empty.push .nilBlob⟩ ⟨true, false, false, false⟩ rfl)
      (fun _ _ _ _ => trivial)
    have hread : ¬ ∃ v, (Column.mk .blob ⟨#[8], Heap.empty.push .nilBlob⟩
        ⟨true, false, false, false⟩ rfl).read {} 0 = .ok v := by
      rintro ⟨v, hv⟩
      cases hv
    exact ⟨_, rfl, fun h => hread (hiff.mp h 0 (by decide)), hread⟩

end Column

end ColumnBridge
