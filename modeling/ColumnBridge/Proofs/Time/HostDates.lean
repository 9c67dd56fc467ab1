import ColumnBridge.Proofs.Time.CheckedDates
import ColumnBridge.Proofs.Time.StoreFetch

/-!
Dates on the host clock.

A day is fetched as the millisecond with which it begins, and every millisecond is stored on one day.

* `HostClock.monotone_dayOfMs`: later milliseconds are not stored on earlier days; so the days begin one
  after the other (`HostClock.strictMono_dayToMs`), and the milliseconds of 32-bit days are all those from
  the beginning of the first to the end of the last (`HostClock.inRange_dayOfMs_iff`);
* `HostClock.abs_dayToMs_sub_lt`: a day begins less than one day away from all its milliseconds;
* `HostClock.dateToMs?_eq`, `HostClock.dayOfMs?_eq`: no step of either direction overflows 64 bits;
* `HostClock.dateToMs_isCodec`: all of it for machine integers.
-/

namespace ColumnBridge.HostClock

open Calendar

/-! ### The order of days -/

/-- The days that a host year stores on are those of its calendar year, and sometimes the first day of
the next. -/
lemma dayOfMs_mem_year (ms : ℤ) :
    newYear (hostYear ms) ≤ dayOfMs ms ∧ dayOfMs ms ≤ newYear (hostYear ms + 1) := by
  have hrest := yearRest_bounds ms
  rw [dayOfMs_eq, newYear_succ]
  simp only [msPerYear, msPerDay] at hrest ⊢
  split_ifs <;> omega

/-- A later host millisecond is not stored on an earlier day. -/
theorem monotone_dayOfMs : Monotone dayOfMs := by
  intro ms later hle
  have hyears : hostYear ms ≤ hostYear later := by
    have hquotient := Int.ediv_le_ediv (c := msPerYear) (by decide) hle
    exact add_le_add_right hquotient epochYear
  rcases hyears.lt_or_eq with hyear | hyear
  · calc dayOfMs ms ≤ newYear (hostYear ms + 1) := (dayOfMs_mem_year ms).2
      _ ≤ newYear (hostYear later) := strictMono_newYear.monotone hyear
      _ ≤ dayOfMs later := (dayOfMs_mem_year later).1
  · -- in one host year the days are counted by the milliseconds that are over
    have hrest : ms % msPerYear ≤ later % msPerYear := by
      have hms := hostYear_mul ms
      have hlater := hostYear_mul later
      rw [hyear] at hms
      omega
    rw [dayOfMs_eq, dayOfMs_eq, hyear]
    exact add_le_add_right (Int.ediv_le_ediv (by decide) hrest) _

/-- A later day begins later. -/
theorem strictMono_dayToMs : StrictMono dayToMs := fun day later hlt =>
  monotone_dayOfMs.reflect_lt (by rwa [dayOfMs_dayToMs, dayOfMs_dayToMs])

/-- A day begins less than one day away from each of its milliseconds: before it, or at most six hours
later. -/
lemma abs_dayToMs_sub_lt (ms : ℤ) : |dayToMs (dayOfMs ms) - ms| < msPerDay := by
  have htime := timeOfMs_bounds ms
  rw [abs_lt]
  by_cases hover : Overruns ms
  · have hback := dayToMs_of_overruns hover
    simp only [quarterDayMs, msPerDay] at hback htime ⊢
    omega
  · have hback := dayToMs_of_not_overruns hover
    omega

/-- The host milliseconds of the 32-bit days: from the beginning of the first one to the end of the last
one. -/
lemma inRange_dayOfMs_iff (ms : ℤ) :
    IntWidth.w32.InRange (dayOfMs ms)
      ↔ dayToMs (-2147483648) ≤ ms ∧ ms < dayToMs 2147483647 + msPerDay := by
  have hbefore : dayOfMs (dayToMs (-2147483648) - 1) < -2147483648 := by decide
  have hlast : dayOfMs (dayToMs 2147483647 + msPerDay - 1) ≤ 2147483647 := by decide
  have hafter : 2147483647 < dayOfMs (dayToMs 2147483647 + msPerDay) := by decide
  have hrange : IntWidth.w32.InRange (dayOfMs ms)
      ↔ -2147483648 ≤ dayOfMs ms ∧ dayOfMs ms < 2147483648 := Iff.rfl
  rw [hrange]
  constructor
  · rintro ⟨hlow, hhigh⟩
    have hfrom : dayToMs (-2147483648) - 1 < ms := monotone_dayOfMs.reflect_lt (by omega)
    have hto : ms < dayToMs 2147483647 + msPerDay := monotone_dayOfMs.reflect_lt (by omega)
    omega
  · rintro ⟨hfrom, hto⟩
    have hlow := monotone_dayOfMs hfrom
    have hhigh : dayOfMs ms ≤ dayOfMs (dayToMs 2147483647 + msPerDay - 1) :=
      monotone_dayOfMs (by omega)
    rw [dayOfMs_dayToMs] at hlow
    omega

/-! ### Steps that may overflow -/

/-- The host milliseconds of a date, none if a step overflows. -/
def dateToMs? (day : Int32) : Option ℤ := do
  let (year, place) ← dayOfYear? day.toInt
  let days ← checked (place - 1)
  let intoYear ← checked (days * msPerDay)
  let years ← checked (year - epochYear)
  let beforeYear ← checked (years * msPerYear)
  checked (intoYear + beforeYear)

/-- The day of a host millisecond, none if a step overflows. -/
def dayOfMs? (ms : ℤ) : Option ℤ := do
  let year ← checked (epochYear + ms / msPerYear)
  let first ← dayNumber? ⟨year, 1, 1⟩
  checked (first + (ms % msPerYear).tdiv msPerDay)

/-- No step of fetching a date overflows. -/
lemma dateToMs?_eq (day : Int32) : dateToMs? day = some (dateToMs day).toInt := by
  obtain ⟨hday, hera, hyear⟩ := fits_date day
  have hplace := position_nonneg day.toInt
  have hplace' := position_le day.toInt
  have hyears : -6000000 ≤ (dateOfDay day.toInt).year ∧ (dateOfDay day.toInt).year ≤ 6000000 := by
    have hlow := Int32.le_toInt day
    have hhigh := Int32.toInt_lt day
    have hposition : position day.toInt = day.toInt - newYear (dateOfDay day.toInt).year := rfl
    rw [newYear_eq] at hposition
    omega
  have hplaced : dayOfYear? day.toInt
      = some ((dateOfDay day.toInt).year, position day.toInt + 1) := by
    rw [dayOfYear?_eq hday, if_pos ⟨hera, hyear⟩, dayOfYear_eq]
  rw [dateToMs?, hplaced, some_bind, toInt_dateToMs, dayToMs_eq]
  simp only [add_sub_cancel_right, msPerDay, msPerYear, epochYear]
  rw [checked_bind (by omega), checked_bind (by omega), checked_bind (by omega),
    checked_bind (by omega), checked_eq (by omega)]

/-- No step of finding the day of a host millisecond overflows. -/
lemma dayOfMs?_eq (ms : Int64) : dayOfMs? ms.toInt = some (dayOfMs ms.toInt) := by
  have hlow := Int64.le_toInt ms
  have hhigh := Int64.toInt_lt ms
  have hrest := yearRest_bounds ms.toInt
  have hyears : -292269055 ≤ hostYear ms.toInt ∧ hostYear ms.toInt ≤ 292279000 := by
    simp only [hostYear, epochYear, msPerYear]
    omega
  have hfirst : dayNumber ⟨hostYear ms.toInt, 1, 1⟩ = newYear (hostYear ms.toInt) := rfl
  have hdays : -107000000000 ≤ newYear (hostYear ms.toInt)
      ∧ newYear (hostYear ms.toInt) ≤ 107000000000 := by
    rw [newYear_eq]
    omega
  have hnumber : dayNumber? ⟨hostYear ms.toInt, 1, 1⟩ = some (newYear (hostYear ms.toInt)) := by
    rw [dayNumber?_eq (isValid_firstDay _), hfirst, if_pos]
    simp only [inRange_iff, epochOffset]
    omega
  rw [dayOfMs?, ← hostYear, checked_bind (by omega), hnumber, some_bind, dayOfMs_eq,
    Int.tdiv_eq_ediv_of_nonneg hrest.1]
  simp only [msPerYear, msPerDay] at hrest ⊢
  exact checked_eq (by omega)

/-! ### Machine integers -/

/-- A host millisecond is stored exactly if its day is a 32-bit integer. -/
lemma exists_msToDate_iff (ms : Int64) :
    (∃ day, msToDate ms = .ok day) ↔ IntWidth.w32.InRange (dayOfMs ms.toInt) := by
  constructor
  · rintro ⟨day, hday⟩
    rw [← msToDate_eq_ok_iff.mp hday]
    exact IntWidth.inRange_toInt .w32 day
  · intro hrange
    exact ⟨Int32.ofInt _, msToDate_eq_ok_iff.mpr (IntWidth.toInt_ofInt .w32 hrange)⟩

/-- **The codec of dates.**  Every date is fetched without overflow and stored again as it was, and later
dates are fetched as later milliseconds.  The milliseconds that are stored are those from the beginning of
the first date to the end of the last one; a later one is not stored as an earlier date, and each is fetched
back less than one day away. -/
theorem dateToMs_isCodec :
    (∀ day : Int32, dateToMs? day = some (dateToMs day).toInt ∧ msToDate (dateToMs day) = .ok day)
      ∧ (∀ day later : Int32, day.toInt < later.toInt →
          (dateToMs day).toInt < (dateToMs later).toInt)
      ∧ (∀ ms : Int64, dayOfMs? ms.toInt = some (dayOfMs ms.toInt))
      ∧ (∀ ms : Int64, (∃ day, msToDate ms = .ok day)
          ↔ (dateToMs Int32.minValue).toInt ≤ ms.toInt
            ∧ ms.toInt < (dateToMs Int32.maxValue).toInt + msPerDay)
      ∧ (∀ (ms later : Int64) (day laterDay : Int32), ms.toInt ≤ later.toInt →
          msToDate ms = .ok day → msToDate later = .ok laterDay → day.toInt ≤ laterDay.toInt)
      ∧ ∀ (ms : Int64) (day : Int32), msToDate ms = .ok day →
          |(dateToMs day).toInt - ms.toInt| < msPerDay := by
  refine ⟨fun day => ⟨dateToMs?_eq day, msToDate_dateToMs day⟩, ?_, dayOfMs?_eq, ?_, ?_, ?_⟩
  · intro day later hlt
    rw [toInt_dateToMs, toInt_dateToMs]
    exact strictMono_dayToMs hlt
  · intro ms
    rw [exists_msToDate_iff, inRange_dayOfMs_iff, toInt_dateToMs, toInt_dateToMs]
    rfl
  · intro ms later day laterDay hle hday hlaterDay
    rw [msToDate_eq_ok_iff.mp hday, msToDate_eq_ok_iff.mp hlaterDay]
    exact monotone_dayOfMs hle
  · intro ms day hday
    rw [toInt_dateToMs, msToDate_eq_ok_iff.mp hday]
    exact abs_dayToMs_sub_lt ms.toInt

/-- The last hours of the host year 2023 are stored as January 1 of 2024, which begins six hours after the
first of them, and the last millisecond that is a date is stored as the last date. -/
theorem dateToMs_isCodec_yearEnd :
    (dateToMs 19722).toInt < (dateToMs 19723).toInt
      ∧ msToDate 1704088799999 = .ok 19722 ∧ msToDate 1704088800000 = .ok 19723
      ∧ |(dateToMs 19723).toInt - (1704088800000 : Int64).toInt| < msPerDay
      ∧ (19722 : Int32).toInt ≤ (19723 : Int32).toInt
      ∧ ∃ day, msToDate 185546397211199999 = .ok day := by
  obtain ⟨-, hlater, -, haccepts, hmonotone, hnear⟩ := dateToMs_isCodec
  have hbefore : msToDate 1704088799999 = .ok 19722 := by rfl
  have hfolded : msToDate 1704088800000 = .ok 19723 := by rfl
  exact ⟨hlater 19722 19723 (by decide), hbefore, hfolded, hnear _ _ hfolded,
    hmonotone _ _ _ _ (by decide) hbefore hfolded, (haccepts _).mpr (by decide)⟩

end ColumnBridge.HostClock
