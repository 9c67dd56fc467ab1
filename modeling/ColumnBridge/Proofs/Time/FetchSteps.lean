import ColumnBridge.Proofs.Time.CheckedDates
import ColumnBridge.Proofs.Time.HostClock

/-!
The steps of a fetch.

A fetch of a time or timestamp subtracts the bias in a step that nothing checks: it overflows where the exact
number of host milliseconds is no machine integer.  The steps before it never do, since a timestamp lies less
than 300000 years from 1970.

* `HostClock.timeToMs?_eq`, `HostClock.timestampToMs?_eq`: the steps give the exact number, where it has room;
* `HostClock.timeToMs_eq_some_iff`, `HostClock.timestampToMs_eq_some_iff`: so does a fetch, and
  `HostClock.timeToMs_eq_none_iff`, `HostClock.timestampToMs_eq_none_iff`: else it overflows.
-/

namespace ColumnBridge.HostClock

open Calendar

lemma dayToMs_eq (day : ℤ) :
    dayToMs day = position day * msPerDay + ((dateOfDay day).year - epochYear) * msPerYear := by
  rw [dayToMs, dayOfYear_eq]
  simp only [add_sub_cancel_right]

/-! ### One step after the other -/

lemma timeToMs?_eq (micros bias : ℤ) : timeToMs? micros bias = checked (exactTimeMs micros bias) := rfl

/-- The day of a 64-bit timestamp. -/
lemma dayOfTimestamp_bounds (micros : Int64) :
    -106751992 ≤ micros.toInt / usPerDay ∧ micros.toInt / usPerDay ≤ 106751991 := by
  have hlow := Int64.le_toInt micros
  have hhigh := Int64.toInt_lt micros
  simp only [usPerDay]
  omega

/-- No step before the subtraction of the bias overflows. -/
lemma timestampToMs?_eq (micros : Int64) (bias : ℤ) :
    timestampToMs? micros.toInt bias = checked (exactTimestampMs micros.toInt bias) := by
  obtain ⟨hday, hera, hyear⟩ := fits_timestamp micros
  have hbounds := dayOfTimestamp_bounds micros
  have hrest : 0 ≤ micros.toInt % usPerDay ∧ micros.toInt % usPerDay < usPerDay :=
    ⟨Int.emod_nonneg _ (by decide), Int.emod_lt_of_pos _ (by decide)⟩
  have hplaced : dayOfYear? (micros.toInt / usPerDay)
      = some (dayOfYear (micros.toInt / usPerDay)) := by
    rw [dayOfYear?_eq hday, if_pos ⟨hera, hyear⟩]
  rw [timestampToMs?, exactTimestampMs, hplaced, some_bind, Int.tdiv_eq_ediv_of_nonneg hrest.1,
    dayToMs_eq, dayOfYear_eq]
  generalize micros.toInt / usPerDay = day at hbounds ⊢
  generalize micros.toInt % usPerDay = rest at hrest ⊢
  have hplace := position_nonneg day
  have hplace' := position_le day
  have hyears : -300000 ≤ (dateOfDay day).year ∧ (dateOfDay day).year ≤ 300000 := by
    have hposition : position day = day - newYear (dateOfDay day).year := rfl
    rw [newYear_eq] at hposition
    omega
  simp only [add_sub_cancel_right, msPerDay, msPerYear, epochYear, usPerDay] at hrest ⊢
  rw [checked_bind (by omega), checked_bind (by omega), checked_bind (by omega),
    checked_bind (by omega), checked_bind (by omega), checked_bind (by omega)]

/-! ### Machine integers -/

/-- The result of a step as a machine integer. -/
lemma map_checked (n : ℤ) : (checked n).map Int64.ofInt = IntWidth.w64.ofInt? n := by
  rw [checked, IntWidth.ofInt?]
  split <;> rfl

section Fetch

variable {micros bias ms : Int64}

lemma timeToMs_eq_some_iff :
    timeToMs micros bias = some ms ↔ ms.toInt = exactTimeMs micros.toInt bias.toInt := by
  rw [timeToMs, timeToMs?_eq, map_checked]
  exact IntWidth.ofInt?_eq_some

lemma timeToMs_eq_none_iff :
    timeToMs micros bias = none ↔ ¬ IntWidth.w64.InRange (exactTimeMs micros.toInt bias.toInt) := by
  rw [timeToMs, timeToMs?_eq, map_checked]
  exact IntWidth.ofInt?_eq_none

lemma timestampToMs_eq_some_iff :
    timestampToMs micros bias = some ms ↔ ms.toInt = exactTimestampMs micros.toInt bias.toInt := by
  rw [timestampToMs, timestampToMs?_eq, map_checked]
  exact IntWidth.ofInt?_eq_some

lemma timestampToMs_eq_none_iff :
    timestampToMs micros bias = none
      ↔ ¬ IntWidth.w64.InRange (exactTimestampMs micros.toInt bias.toInt) := by
  rw [timestampToMs, timestampToMs?_eq, map_checked]
  exact IntWidth.ofInt?_eq_none

/-- A time of day is fetched if its host milliseconds have room. -/
lemma exists_timeToMs (h : IntWidth.w64.InRange (exactTimeMs micros.toInt bias.toInt)) :
    ∃ ms, timeToMs micros bias = some ms ∧ ms.toInt = exactTimeMs micros.toInt bias.toInt :=
  ⟨_, timeToMs_eq_some_iff.mpr (toInt_ofInt64 h), toInt_ofInt64 h⟩

/-- So is a timestamp. -/
lemma exists_timestampToMs (h : IntWidth.w64.InRange (exactTimestampMs micros.toInt bias.toInt)) :
    ∃ ms, timestampToMs micros bias = some ms ∧ ms.toInt = exactTimestampMs micros.toInt bias.toInt :=
  ⟨_, timestampToMs_eq_some_iff.mpr (toInt_ofInt64 h), toInt_ofInt64 h⟩

end Fetch

end ColumnBridge.HostClock
