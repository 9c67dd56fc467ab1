import ColumnBridge.Proofs.Decimal.Fit
import ColumnBridge.Proofs.Stored.Fetched
import ColumnBridge.Proofs.Time.StoreFetch

/-!
The canonical form of a host value: what a column of a type keeps of it.

* `LogicalType.canonicalValue`, `LogicalType.canonical`: the form, type by type.  It is told without
  cells: a number that is its own nil is none, a row identifier is its number with the suffix, a decimal
  has the scale of the column, and a date or time goes through the clock once and back, where the way back
  may overflow.
* `LogicalType.read_encode`: a cell that stores a value is read as the canonical form of the value, and
  `LogicalType.canonical_eq_ok_or_overflow`: a stored value has one, but for timestamps out of 64 bits.
-/

namespace ColumnBridge

/-! ### The canonical form -/

namespace LogicalType

/-- What a column of a type keeps of a host value, or why it keeps nothing. -/
def canonicalValue (options : MarshalOptions) :
    LogicalType → HostValue → Except (Halt MarshalError) (Option HostValue)
  | boolean, .boolean b => .ok (some (.boolean b))
  | tinyInt, .byte x => .ok (if x = Int8.minValue then none else some (.byte x))
  | smallInt, .short x => .ok (if x = Int16.minValue then none else some (.short x))
  | int, .integer x => .ok (if x = Int32.minValue then none else some (.integer x))
  | bigInt, .long x => .ok (if x = Int64.minValue then none else some (.long x))
  | real, .float x => .ok (if x.isNaN then none else some (.float x))
  | double, .double x => .ok (if x.isNaN then none else some (.double x))
  | oid, .string s =>
    .ok (if s = RowId.nilText then none else some (.string (toString (RowId.denoted s) ++ "@0")))
  | date, .date ms => do
    let day ← Halt.lift (HostClock.msToDate ms)
    return if day = Int32.minValue then none else some (.date (HostClock.dateToMs day))
  | time, .time ms => do
    let micros ← Halt.lift (HostClock.msToTime ms options.timeBias)
    let ms ← Halt.unlessOverflow (HostClock.timeToMs micros options.timeBias)
    return some (.time ms)
  | timestamp, .timestamp ms => do
    let micros ← Halt.lift (HostClock.msToTimestamp ms options.timeBias)
    let ms ← Halt.unlessOverflow (HostClock.timestampToMs micros options.timeBias)
    return some (.timestamp ms)
  | decimal spec, .decimal d => do
    let unscaled ← Halt.lift (d.fit spec options.rounding)
    return some (.decimal ⟨unscaled, spec.scale⟩)
  | string, .string s => .ok (some (.string s))
  | blob, .bytes b => .ok (some (.bytes b))
  -- a value of another kind is stored in no column of the type
  | t, v => .error (.failure (t.wrongKind v))

/-- What a column of a type keeps of a host value, or of none. -/
def canonical (options : MarshalOptions) (t : LogicalType) :
    Option HostValue → Except (Halt MarshalError) (Option HostValue)
  | some v => t.canonicalValue options v
  | none => .ok none

/-! ### Nil cells -/

/-- A slot of integers is nil exactly if it is the smallest one. -/
lemma isNil_int {w : IntWidth} {x : w.Carrier} :
    (SlotKind.int w).isNil x = true ↔ w.toInt x = w.least :=
  decide_eq_true_iff

/-- No text has the payload of a nil string. -/
lemma payload_ne_nilString (s : String) : HeapEntry.payload s.toByteArray ≠ .nilString := by
  intro h
  have hbytes : s.toByteArray = ⟨#[0x80]⟩ := by
    simpa only [HeapEntry.nilString, HeapEntry.payload.injEq] using h
  have hnone : String.fromUTF8? ⟨#[0x80]⟩ = none := by decide
  have hsome : String.fromUTF8? s.toByteArray ≠ none := by
    rw [String.fromUTF8?, dif_pos s.isValidUTF8]
    exact Option.some_ne_none _
  rw [hbytes] at hsome
  exact hsome hnone

/-- The cell that stands for nil is nil. -/
lemma isNilCell_nilCell (t : LogicalType) : t.isNilCell t.nilCell = true := by
  have hint : ∀ w : IntWidth, (SlotKind.int w).isNil (SlotKind.int w).nil = true := by
    intro w
    cases w <;> decide
  cases t with
  | decimal spec => exact hint spec.width
  | real => exact (by decide : (Binary.nan .single).isNaN = true)
  | double => exact (by decide : (Binary.nan .double).isNaN = true)
  | oid | string | blob => decide
  | boolean | tinyInt => exact hint .w8
  | smallInt => exact hint .w16
  | int | date => exact hint .w32
  | bigInt | time | timestamp => exact hint .w64

/-- A cell is read as the value it decodes to, unless it is nil. -/
lemma read_of_nil_iff {options : MarshalOptions} {t : LogicalType} {c : t.storage.Cell} {v : HostValue}
    {isNil : Prop} [Decidable isNil] (hnil : t.isNilCell c = true ↔ isNil)
    (hd : t.decode options c = .ok v) :
    t.read options c = .ok (if isNil then none else some v) := by
  split
  · next h => exact read_eq_ok_none_iff.mpr (hnil.mpr h)
  · next h => exact read_eq_ok_some_iff.mpr ⟨Bool.eq_false_iff.mpr fun hc => h (hnil.mp hc), hd⟩

/-! ### What storing keeps -/

/-- Only values of the host kind of a type are stored. -/
lemma kind_of_encodeValue {options : MarshalOptions} {t : LogicalType} {v : HostValue}
    {c : t.storage.Cell} (h : t.encodeValue options v = .ok c) : v.kind = t.hostKind := by
  cases t <;> cases v <;> first | rfl | cases h

/-- Storing a row identifier keeps its number, and no text but `nil` is nil. -/
lemma read_encode_oid {options : MarshalOptions} {s : String} {c : RowId}
    (h : oid.encodeValue options (.string s) = .ok c) :
    oid.read options c = oid.canonicalValue options (.string s) := by
  rw [encodeValue] at h
  obtain ⟨id, hparse, hc⟩ := map_eq_ok.mp h
  subst hc
  cases id with
  | none =>
    have hkeep : oid.canonicalValue options (.string s) = .ok none :=
      congrArg Except.ok (if_pos (RowId.eq_nilText_of_parse hparse))
    rw [hkeep]
    exact read_eq_ok_none_iff.mpr (isNilCell_nilCell oid)
  | some id =>
    have hlt := RowId.lt_nil_of_parse hparse
    have hnil : oid.isNilCell id = false := by
      refine decide_eq_false fun hid => ?_
      rw [hid] at hlt
      exact lt_irrefl _ hlt
    have htext : s ≠ RowId.nilText := by
      rintro rfl
      rw [RowId.parse_nilText] at hparse
      cases hparse
    have hkeep : oid.canonicalValue options (.string s) = .ok (some (.string (RowId.render id))) := by
      rw [RowId.render_eq, RowId.toNat_of_parse hparse]
      exact congrArg Except.ok (if_neg htext)
    rw [hkeep]
    exact read_eq_ok_some_iff.mpr ⟨hnil, rfl⟩

/-- Storing a date keeps its day, unless the day is the nil of its width. -/
lemma read_encode_date {options : MarshalOptions} {ms : Int64} {day : Int32}
    (h : date.encodeValue options (.date ms) = .ok day) :
    date.read options day = date.canonicalValue options (.date ms) := by
  have hday : HostClock.msToDate ms = .ok day := h
  rw [canonicalValue, hday]
  exact read_of_nil_iff (isNil_int.trans (Int32.toInt_inj (y := Int32.minValue))) rfl

/-- Storing a time of day keeps its microseconds. -/
lemma read_encode_time {options : MarshalOptions} {ms micros : Int64}
    (h : time.encodeValue options (.time ms) = .ok micros) :
    time.read options micros = time.canonicalValue options (.time ms) := by
  have hmicros : HostClock.msToTime ms options.timeBias = .ok micros := h
  have hnil : time.isNilCell micros = false :=
    decide_eq_false (HostClock.toInt_ne_least_of_msToTime hmicros)
  rw [canonicalValue, hmicros, Halt.lift_ok_bind, read_of_not_nil hnil, decode]
  cases HostClock.timeToMs micros options.timeBias <;> rfl

/-- Storing a timestamp keeps its microseconds. -/
lemma read_encode_timestamp {options : MarshalOptions} {ms micros : Int64}
    (h : timestamp.encodeValue options (.timestamp ms) = .ok micros) :
    timestamp.read options micros = timestamp.canonicalValue options (.timestamp ms) := by
  have hmicros : HostClock.msToTimestamp ms options.timeBias = .ok micros := h
  have hnil : timestamp.isNilCell micros = false :=
    decide_eq_false (HostClock.toInt_ne_least_of_msToTimestamp hmicros)
  rw [canonicalValue, hmicros, Halt.lift_ok_bind, read_of_not_nil hnil, decode]
  cases HostClock.timestampToMs micros options.timeBias <;> rfl

/-- A decimal is stored in a cell exactly if it fits and the cell holds the number. -/
lemma encodeValue_decimal_eq_ok_iff {options : MarshalOptions} {spec : DecimalSpec}
    {d : Decimal} {c : (decimal spec).storage.Cell} :
    (decimal spec).encodeValue options (.decimal d) = .ok c ↔
      d.fit spec options.rounding = .ok (spec.width.toInt c) := by
  rw [encodeValue, bind_eq_ok]
  constructor
  · rintro ⟨n, hfit, hn⟩
    split at hn
    · next x hx =>
      cases hn
      rw [hfit, IntWidth.ofInt?_eq_some.mp hx]
    · cases hn
  · intro hfit
    refine ⟨_, hfit, ?_⟩
    rw [IntWidth.ofInt?_eq_some.mpr rfl]

/-- No number of the declared digits is nil. -/
lemma isNilCell_decimal {spec : DecimalSpec} {c : (decimal spec).storage.Cell}
    (h : (spec.width.toInt c).natAbs < 10 ^ spec.precision) : (decimal spec).isNilCell c = false :=
  decide_eq_false (DecimalSpec.least_lt h).1.ne'

/-- Storing a decimal keeps the number that fits, with the scale of the column. -/
lemma read_encode_decimal {options : MarshalOptions} {spec : DecimalSpec} {d : Decimal}
    {c : (decimal spec).storage.Cell} (h : (decimal spec).encodeValue options (.decimal d) = .ok c) :
    (decimal spec).read options c = (decimal spec).canonicalValue options (.decimal d) := by
  have hfit := encodeValue_decimal_eq_ok_iff.mp h
  have hnil := isNilCell_decimal (Decimal.fit_eq_ok_iff.mp hfit).2
  rw [canonicalValue, hfit]
  exact read_eq_ok_some_iff.mpr ⟨hnil, decode_decimal c⟩

/-- A cell that stores a host value is read as the canonical form of the value. -/
lemma read_encodeValue {options : MarshalOptions} {t : LogicalType} {v : HostValue}
    {c : t.storage.Cell} (h : t.encodeValue options v = .ok c) :
    t.read options c = t.canonicalValue options v := by
  have hkind := kind_of_encodeValue h
  cases t with
  | boolean =>
    cases v with
    | boolean b =>
      cases h
      cases b <;> rfl
    | _ => cases hkind
  | tinyInt =>
    cases v with
    | byte x =>
      cases h
      exact read_of_nil_iff (isNil_int.trans (Int8.toInt_inj (y := Int8.minValue))) rfl
    | _ => cases hkind
  | smallInt =>
    cases v with
    | short x =>
      cases h
      exact read_of_nil_iff (isNil_int.trans (Int16.toInt_inj (y := Int16.minValue))) rfl
    | _ => cases hkind
  | int =>
    cases v with
    | integer x =>
      cases h
      exact read_of_nil_iff (isNil_int.trans (Int32.toInt_inj (y := Int32.minValue))) rfl
    | _ => cases hkind
  | bigInt =>
    cases v with
    | long x =>
      cases h
      exact read_of_nil_iff (isNil_int.trans (Int64.toInt_inj (y := Int64.minValue))) rfl
    | _ => cases hkind
  | real =>
    cases v with
    | float x =>
      cases h
      exact read_of_nil_iff Iff.rfl rfl
    | _ => cases hkind
  | double =>
    cases v with
    | double x =>
      cases h
      exact read_of_nil_iff Iff.rfl rfl
    | _ => cases hkind
  | oid =>
    cases v with
    | string s => exact read_encode_oid h
    | _ => cases hkind
  | date =>
    cases v with
    | date ms => exact read_encode_date h
    | _ => cases hkind
  | time =>
    cases v with
    | time ms => exact read_encode_time h
    | _ => cases hkind
  | timestamp =>
    cases v with
    | timestamp ms => exact read_encode_timestamp h
    | _ => cases hkind
  | decimal spec =>
    cases v with
    | decimal d => exact read_encode_decimal h
    | _ => cases hkind
  | string =>
    cases v with
    | string s =>
      cases h
      have hnil : string.isNilCell (.payload s.toByteArray) = false :=
        decide_eq_false (payload_ne_nilString s)
      have hdecode : string.decode options (.payload s.toByteArray) = .ok (.string s) := by
        rw [decode, decodeText, Text.Utf8.decode_toByteArray]
        rfl
      exact read_eq_ok_some_iff.mpr ⟨hnil, hdecode⟩
    | _ => cases hkind
  | blob =>
    cases v with
    | bytes b =>
      cases h
      have hmark : HeapEntry.payload b ≠ .nilBlob := by
        intro h
        cases h
      exact read_eq_ok_some_iff.mpr ⟨decide_eq_false hmark, rfl⟩
    | _ => cases hkind

/-- A stored value has a canonical form, but for a timestamp that overflows on the way back. -/
lemma canonicalValue_eq_ok_or_overflow {options : MarshalOptions} {t : LogicalType} {v : HostValue}
    {c : t.storage.Cell} (h : t.encodeValue options v = .ok c) :
    (∃ kept, t.canonicalValue options v = .ok kept)
      ∨ t = timestamp ∧ t.canonicalValue options v = .error .overflow := by
  have hkind := kind_of_encodeValue h
  cases t with
  | date =>
    cases v with
    | date ms =>
      have hday : HostClock.msToDate ms = .ok c := h
      rw [canonicalValue, hday]
      exact .inl ⟨_, rfl⟩
    | _ => cases hkind
  | time =>
    cases v with
    | time ms =>
      have hmicros : HostClock.msToTime ms options.timeBias = .ok c := h
      rw [canonicalValue, hmicros, Halt.lift_ok_bind, HostClock.timeToMs_msToTime hmicros]
      exact .inl ⟨_, rfl⟩
    | _ => cases hkind
  | timestamp =>
    cases v with
    | timestamp ms =>
      have hmicros : HostClock.msToTimestamp ms options.timeBias = .ok c := h
      rw [canonicalValue, hmicros, Halt.lift_ok_bind]
      cases HostClock.timestampToMs c options.timeBias with
      | some again => exact .inl ⟨_, rfl⟩
      | none => exact .inr ⟨rfl, rfl⟩
    | _ => cases hkind
  | decimal spec =>
    cases v with
    | decimal d =>
      rw [canonicalValue, encodeValue_decimal_eq_ok_iff.mp h]
      exact .inl ⟨_, rfl⟩
    | _ => cases hkind
  | _ =>
    cases v <;> cases hkind
    exact .inl ⟨_, rfl⟩

lemma canonical_eq_ok_or_overflow {options : MarshalOptions} {t : LogicalType} {v : Option HostValue}
    {c : t.storage.Cell} (h : t.encode options v = .ok c) :
    (∃ kept, t.canonical options v = .ok kept)
      ∨ t = timestamp ∧ t.canonical options v = .error .overflow := by
  cases v with
  | none => exact .inl ⟨none, rfl⟩
  | some v => exact canonicalValue_eq_ok_or_overflow h

/-- A cell that stores a host value, or none, is read as the canonical form. -/
lemma read_encode {options : MarshalOptions} {t : LogicalType} {v : Option HostValue}
    {c : t.storage.Cell} (h : t.encode options v = .ok c) :
    t.read options c = t.canonical options v := by
  cases v with
  | none =>
    cases h
    exact read_eq_ok_none_iff.mpr (isNilCell_nilCell t)
  | some v => exact read_encodeValue h

end LogicalType

end ColumnBridge
