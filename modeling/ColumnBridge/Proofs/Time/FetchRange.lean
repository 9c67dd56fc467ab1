import ColumnBridge.Proofs.Stored.Fetched
import ColumnBridge.Proofs.Time.HostDates

/-!
Where the clock bias takes a fetch out of 64 bits.

A fetch of a time or timestamp subtracts the bias, which may be any 64-bit integer, and does not check the
difference.

* `HostClock.unbiasedTime_bounds`, `HostClock.unbiasedTimestamp_bounds`: the milliseconds from which the bias
  is subtracted, and `HostClock.forall_inRange_time_iff`, `HostClock.forall_inRange_timestamp_iff`: the biases
  that leave room for all of them;
* `Column.FetchedAs`: an exact value where it has room, and else an overflow, which is no failure;
* `Column.read_bias_range`: what a read of any stored value gives, with any bias.
-/

namespace ColumnBridge

namespace HostClock

open Calendar

/-! ### The range before the bias is subtracted -/

/-- The milliseconds of a stored time of day. -/
lemma unbiasedTime_bounds (micros : Int64) :
    -9223372036854775 ≤ exactTimeMs micros.toInt 0 ∧ exactTimeMs micros.toInt 0 ≤ 9223372036854775 := by
  have hlow := Int64.le_toInt micros
  have hhigh := Int64.toInt_lt micros
  rw [exactTimeMs, sub_zero]
  rcases le_total 0 micros.toInt with hpos | hneg
  · rw [Int.tdiv_eq_ediv_of_nonneg hpos]
    omega
  · rw [← neg_neg micros.toInt, Int.neg_tdiv, Int.tdiv_eq_ediv_of_nonneg (by omega)]
    omega

/-- The milliseconds of a stored timestamp. -/
lemma unbiasedTimestamp_bounds (micros : Int64) :
    -9223561468854776 ≤ exactTimestampMs micros.toInt 0
      ∧ exactTimestampMs micros.toInt 0 ≤ 9223561447254775 := by
  have hlow := Int64.le_toInt micros
  have hhigh := Int64.toInt_lt micros
  obtain ⟨day, hday⟩ : ∃ day, day = micros.toInt / usPerDay := ⟨_, rfl⟩
  have hafter : dayToMs (-106751991) = -9223561454400000 := by decide
  have hfirst : dayToMs (-106751992) = -9223561540800000 := by decide
  have hbefore : dayToMs 106751990 = 9223561346400000 := by decide
  have hlast : dayToMs 106751991 = 9223561432800000 := by decide
  rw [exactTimestampMs, sub_zero, ← hday]
  simp only [usPerDay] at hday ⊢
  constructor
  · rcases (show day = -106751992 ∨ -106751991 ≤ day by omega) with hfirstDay | hlater
    · rw [hfirstDay, hfirst]
      omega
    · have hmono := strictMono_dayToMs.monotone hlater
      omega
  · rcases (show day = 106751991 ∨ day ≤ 106751990 by omega) with hlastDay | hearlier
    · rw [hlastDay, hlast]
      omega
    · have hmono := strictMono_dayToMs.monotone hearlier
      omega

lemma exactTimeMs_eq (micros bias : ℤ) : exactTimeMs micros bias = exactTimeMs micros 0 - bias := by
  rw [exactTimeMs, exactTimeMs, sub_zero]

lemma exactTimestampMs_eq (micros bias : ℤ) :
    exactTimestampMs micros bias = exactTimestampMs micros 0 - bias := by
  rw [exactTimestampMs, exactTimestampMs, sub_zero]

/-- The steps before the subtraction of the bias are those of a fetch without one, and none of them
overflows. -/
lemma unbiased_steps (micros : Int64) :
    timeToMs? micros.toInt 0 = some (exactTimeMs micros.toInt 0)
      ∧ timestampToMs? micros.toInt 0 = some (exactTimestampMs micros.toInt 0) := by
  have htime := unbiasedTime_bounds micros
  have htimestamp := unbiasedTimestamp_bounds micros
  rw [timeToMs?_eq, timestampToMs?_eq]
  exact ⟨checked_eq (by omega), checked_eq (by omega)⟩

/-- A bias leaves room for every number of milliseconds if it does for the least and for the greatest one. -/
lemma forall_inRange_sub_iff {unbiased : Int64 → ℤ} {least greatest bias : ℤ}
    (hbounds : ∀ micros, least ≤ unbiased micros ∧ unbiased micros ≤ greatest)
    (hleast : ∃ micros, micros ≠ Int64.minValue ∧ unbiased micros = least)
    (hgreatest : ∃ micros, micros ≠ Int64.minValue ∧ unbiased micros = greatest) :
    (∀ micros, micros ≠ Int64.minValue → IntWidth.w64.InRange (unbiased micros - bias))
      ↔ greatest - 9223372036854775807 ≤ bias ∧ bias ≤ least + 9223372036854775808 := by
  constructor
  · intro h
    obtain ⟨first, hfirst, rfl⟩ := hleast
    obtain ⟨last, hlast, rfl⟩ := hgreatest
    have hlow := inRange_iff.mp (h first hfirst)
    have hhigh := inRange_iff.mp (h last hlast)
    omega
  · intro h micros _
    have hmicros := hbounds micros
    rw [inRange_iff]
    omega

/-- The biases that leave room for every stored time of day. -/
lemma forall_inRange_time_iff {bias : ℤ} :
    (∀ micros : Int64, micros ≠ Int64.minValue →
        IntWidth.w64.InRange (exactTimeMs micros.toInt bias))
      ↔ -9214148664817921032 ≤ bias ∧ bias ≤ 9214148664817921033 := by
  simp only [exactTimeMs_eq _ bias]
  refine forall_inRange_sub_iff unbiasedTime_bounds ⟨-9223372036854775807, ?_, ?_⟩
    ⟨9223372036854775807, ?_, ?_⟩ <;> decide

/-- The biases that leave room for every stored timestamp. -/
lemma forall_inRange_timestamp_iff {bias : ℤ} :
    (∀ micros : Int64, micros ≠ Int64.minValue →
        IntWidth.w64.InRange (exactTimestampMs micros.toInt bias))
      ↔ -9214148475407521032 ≤ bias ∧ bias ≤ 9214148475385921032 := by
  simp only [exactTimestampMs_eq _ bias]
  refine forall_inRange_sub_iff unbiasedTimestamp_bounds ⟨-9223372036854775807, ?_, ?_⟩
    ⟨9223372036854775807, ?_, ?_⟩ <;> decide

end HostClock

namespace Column

open HostClock

variable {options : MarshalOptions} {slots : Array Int64} {row : ℕ} {micros : Int64}

/-- What a read of a time or timestamp ends with: the value with the exact number of host milliseconds, where
that is a 64-bit integer, and else an overflow. It is never another value, none or a failure. -/
structure FetchedAs (value : Int64 → HostValue) (exact : ℤ)
    (result : Except (Halt MarshalError) (Option HostValue)) : Prop where
  of_inRange : IntWidth.w64.InRange exact → ∃ ms, result = .ok (some (value ms)) ∧ ms.toInt = exact
  of_not_inRange : ¬ IntWidth.w64.InRange exact → result = .error .overflow

/-- The smallest machine integer alone is nil. -/
lemma isNil_w64_eq_false (h : micros ≠ Int64.minValue) :
    (SlotKind.int .w64).isNil micros = false :=
  decide_eq_false fun hleast => h (Int64.toInt_inj.mp hleast)

/-- A cell that decodes in steps that may overflow is read as the value that they lead to. -/
lemma fetchedAs_of_cell {c : Column} {x : c.type.storage.Cell} (hcell : c.cell row = .ok x)
    (hnil : c.type.isNilCell x = false) {value : Int64 → HostValue} {exact : ℤ} {steps : Option Int64}
    (hdecode : c.type.decode options x = (Halt.unlessOverflow steps).map value)
    (hsome : ∀ {ms}, steps = some ms ↔ ms.toInt = exact)
    (hnone : steps = none ↔ ¬ IntWidth.w64.InRange exact) :
    FetchedAs value exact (c.read options row) := by
  rw [read_eq_of_cell hcell, LogicalType.read_of_not_nil hnil, hdecode]
  constructor
  · intro h
    obtain ⟨ms, hms⟩ := Option.ne_none_iff_exists'.mp (mt hnone.mp (not_not.mpr h))
    exact ⟨ms, by rw [hms]; rfl, hsome.mp hms⟩
  · intro h
    rw [hnone.mpr h]
    rfl

lemma fetchedAs_time (flags : ColumnFlags) (hflags : flags.nullable = !flags.nonNil)
    (hrow : slots[row]? = some micros) (h : micros ≠ Int64.minValue) :
    FetchedAs .time (exactTimeMs micros.toInt options.timeBias.toInt)
      (read ⟨.time, slots, flags, hflags⟩ options row) := by
  have hcell : cell ⟨.time, slots, flags, hflags⟩ row = .ok micros := by
    simp only [cell, StorageKind.cell, hrow]
  exact fetchedAs_of_cell hcell (isNil_w64_eq_false h) rfl timeToMs_eq_some_iff timeToMs_eq_none_iff

lemma fetchedAs_timestamp (flags : ColumnFlags) (hflags : flags.nullable = !flags.nonNil)
    (hrow : slots[row]? = some micros) (h : micros ≠ Int64.minValue) :
    FetchedAs .timestamp (exactTimestampMs micros.toInt options.timeBias.toInt)
      (read ⟨.timestamp, slots, flags, hflags⟩ options row) := by
  have hcell : cell ⟨.timestamp, slots, flags, hflags⟩ row = .ok micros := by
    simp only [cell, StorageKind.cell, hrow]
  exact fetchedAs_of_cell hcell (isNil_w64_eq_false h) rfl timestampToMs_eq_some_iff
    timestampToMs_eq_none_iff

/-- A fetch that does not overflow is one whose exact number has room. -/
lemma isSome_iff_inRange {exact : ℤ} {steps : Option Int64}
    (hnone : steps = none ↔ ¬ IntWidth.w64.InRange exact) :
    steps.isSome = true ↔ IntWidth.w64.InRange exact := by
  rw [Option.isSome_iff_ne_none, ne_eq, hnone, not_not]

/-- **Reading with any bias.**  A stored time or timestamp that is not nil is read as the exact number of host
milliseconds wherever that is a 64-bit integer.  Elsewhere the read overflows and reports nothing, in the
subtraction of the bias: the steps before it, which are those of a fetch with a bias of zero, never do.  The
biases with which every stored value is read are those between the two bounds given for each type. -/
theorem read_bias_range (options : MarshalOptions) :
    (∀ (slots : Array Int64) (flags : ColumnFlags) (hflags : flags.nullable = !flags.nonNil) (row : ℕ)
        (micros : Int64), slots[row]? = some micros → micros ≠ Int64.minValue →
          FetchedAs .time (exactTimeMs micros.toInt options.timeBias.toInt)
            (read ⟨.time, slots, flags, hflags⟩ options row))
      ∧ (∀ (slots : Array Int64) (flags : ColumnFlags) (hflags : flags.nullable = !flags.nonNil) (row : ℕ)
          (micros : Int64), slots[row]? = some micros → micros ≠ Int64.minValue →
            FetchedAs .timestamp (exactTimestampMs micros.toInt options.timeBias.toInt)
              (read ⟨.timestamp, slots, flags, hflags⟩ options row))
      ∧ (∀ micros : Int64, timeToMs? micros.toInt 0 = some (exactTimeMs micros.toInt 0)
          ∧ timestampToMs? micros.toInt 0 = some (exactTimestampMs micros.toInt 0))
      ∧ ((∀ micros : Int64, micros ≠ Int64.minValue → (timeToMs micros options.timeBias).isSome = true)
          ↔ -9214148664817921032 ≤ options.timeBias.toInt
            ∧ options.timeBias.toInt ≤ 9214148664817921033)
      ∧ ((∀ micros : Int64, micros ≠ Int64.minValue →
            (timestampToMs micros options.timeBias).isSome = true)
          ↔ -9214148475407521032 ≤ options.timeBias.toInt
            ∧ options.timeBias.toInt ≤ 9214148475385921032) := by
  refine ⟨fun _ flags hflags _ _ hrow h => fetchedAs_time flags hflags hrow h,
    fun _ flags hflags _ _ hrow h => fetchedAs_timestamp flags hflags hrow h, unbiased_steps, ?_, ?_⟩
  · rw [← forall_inRange_time_iff]
    exact forall₂_congr fun _ _ => isSome_iff_inRange timeToMs_eq_none_iff
  · rw [← forall_inRange_timestamp_iff]
    exact forall₂_congr fun _ _ => isSome_iff_inRange timestampToMs_eq_none_iff

/-- With the usual bias midnight is read as one hour before it, and with the smallest bias the last microsecond
of 1969 is still read. -/
theorem read_bias_range_midnight :
    (∃ ms, read ⟨.time, #[0], .empty, rfl⟩ {} 0 = .ok (some (.time ms)) ∧ ms.toInt = -3600000)
      ∧ ∃ ms, read ⟨.timestamp, #[-1], .empty, rfl⟩ { timeBias := Int64.minValue } 0
          = .ok (some (.timestamp ms)) ∧ ms.toInt = 9223372036833175807 := by
  obtain ⟨htime, -⟩ := read_bias_range {}
  obtain ⟨-, htimestamp, -⟩ := read_bias_range { timeBias := Int64.minValue }
  have hmidnight := (htime #[0] .empty rfl 0 0 rfl (by decide)).of_inRange (by decide)
  have hlast := (htimestamp #[-1] .empty rfl 0 (-1) rfl (by decide)).of_inRange (by decide)
  rw [show exactTimeMs (0 : Int64).toInt _ = -3600000 by decide] at hmidnight
  rw [show exactTimestampMs (-1 : Int64).toInt _ = 9223372036833175807 by decide] at hlast
  exact ⟨hmidnight, hlast⟩

/-- With the smallest bias the read of a millisecond after midnight overflows and reports nothing, while a
store reports what is out of range. -/
theorem read_time_overflows :
    read ⟨.time, #[1000], .empty, rfl⟩ { timeBias := Int64.minValue } 0 = .error .overflow
      ∧ exactTimeMs (1000 : Int64).toInt Int64.minValue.toInt = 9223372036854775809
      ∧ msToTime 9223372036854775807 9223372036854775807
        = .error (.valueConversion "time" "9223372036854775807 ms is not a time of day") :=
  ⟨by rfl, by decide, by rfl⟩

end Column

end ColumnBridge
