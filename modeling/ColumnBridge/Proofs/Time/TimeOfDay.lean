import ColumnBridge.Proofs.Time.CheckedDates
import ColumnBridge.Proofs.Time.StoreFetch

/-!
Times of day that are stored and fetched back, and fetched and stored back.

A store adds the bias, goes over to microseconds and asks whether these lie in one day.  The sum and the
product may overflow before the question is asked.

* `HostClock.msToTime?`, `HostClock.msToTime?_eq`: a store step by step, which overflows only outside of the
  day;
* `HostClock.msToTime_eq_error_iff`, `HostClock.toOption_msToTime`: what a store refuses, and that it is what
  the steps give;
* `HostClock.msToTime_fetched`: a fetched time of day is stored as its whole milliseconds;
* `HostClock.timeOfDay_roundTrips`: both directions, for machine integers.
-/

namespace ColumnBridge.HostClock

open Calendar

/-! ### The steps of a store -/

/-- The stored time of day of host milliseconds, none if a step overflows or the result lies in no day. -/
def msToTime? (ms bias : ℤ) : Option ℤ := do
  let shifted ← checked (ms + bias)
  let micros ← checked (shifted * 1000)
  if 0 ≤ micros ∧ micros < usPerDay then some micros else none

/-- The steps give the microseconds of the shifted milliseconds exactly if these lie in one day: whatever
overflows lies far outside of it. -/
lemma msToTime?_eq (ms bias : ℤ) :
    msToTime? ms bias
      = if 0 ≤ ms + bias ∧ ms + bias < msPerDay then some ((ms + bias) * 1000) else none := by
  generalize hshifted : ms + bias = shifted
  have hsteps : msToTime? ms bias = (checked shifted).bind fun shifted =>
      (checked (shifted * 1000)).bind fun micros =>
        if 0 ≤ micros ∧ micros < usPerDay then some micros else none := by
    rw [← hshifted]
    rfl
  rw [hsteps]
  split_ifs with hin
  · have hroom : -9223372036854775808 ≤ shifted * 1000 ∧ shifted * 1000 < 9223372036854775808 := by
      simp only [msPerDay] at hin
      omega
    rw [checked_eq (by omega), Option.bind_some, checked_eq hroom, Option.bind_some,
      if_pos (micros_inDay_iff.mpr hin)]
  · refine Option.bind_eq_none_iff.mpr fun sum hsum => Option.bind_eq_none_iff.mpr fun micros hmicros => ?_
    obtain ⟨-, rfl⟩ := checked_eq_some_iff.mp hsum
    obtain ⟨-, rfl⟩ := checked_eq_some_iff.mp hmicros
    exact if_neg fun h => hin (micros_inDay_iff.mp h)

section Store

variable {ms bias : Int64}

/-- A store refuses what lies in no day, and names it. -/
lemma msToTime_eq_error_iff {failure : MarshalError} :
    msToTime ms bias = .error failure
      ↔ ¬ (0 ≤ ms.toInt + bias.toInt ∧ ms.toInt + bias.toInt < msPerDay)
        ∧ failure = .valueConversion "time" s!"{ms} ms is not a time of day" := by
  simp only [msToTime, micros_inDay_iff]
  split_ifs with hin
  · exact iff_of_false (by simp) fun h => h.1 hin
  · rw [Except.error.injEq, eq_comm]
    exact (and_iff_right hin).symm

/-- A store keeps what lies in one day. -/
lemma exists_msToTime_iff :
    (∃ micros, msToTime ms bias = .ok micros)
      ↔ 0 ≤ ms.toInt + bias.toInt ∧ ms.toInt + bias.toInt < msPerDay := by
  cases hstored : msToTime ms bias with
  | ok micros => exact iff_of_true ⟨micros, rfl⟩ (msToTime_eq_ok_iff.mp hstored).1
  | error failure => exact iff_of_false nofun (msToTime_eq_error_iff.mp hstored).1

/-- A store is what its steps give. -/
lemma toOption_msToTime (ms bias : Int64) :
    (msToTime ms bias).toOption.map Int64.toInt = msToTime? ms.toInt bias.toInt := by
  rw [msToTime?_eq]
  cases hstored : msToTime ms bias with
  | ok micros =>
    obtain ⟨hin, hmicros⟩ := msToTime_eq_ok_iff.mp hstored
    rw [if_pos hin, ← hmicros]
    rfl
  | error failure =>
    rw [if_neg (msToTime_eq_error_iff.mp hstored).1]
    rfl

end Store

/-! ### Both directions -/

/-- A fetched time of day is stored as its whole milliseconds. -/
lemma msToTime_fetched {micros bias : Int64} (hday : 0 ≤ micros.toInt ∧ micros.toInt < usPerDay)
    (hfit : IntWidth.w64.InRange (exactTimeMs micros.toInt bias.toInt)) :
    ∃ ms stored, timeToMs micros bias = some ms ∧ msToTime ms bias = .ok stored
      ∧ stored.toInt = micros.toInt / 1000 * 1000 := by
  obtain ⟨ms, hfetched, hvalue⟩ := exists_timeToMs hfit
  have hshifted : ms.toInt + bias.toInt = micros.toInt / 1000 := by
    rw [hvalue, exactTimeMs, sub_add_cancel, Int.tdiv_eq_ediv_of_nonneg hday.1]
  have hin : 0 ≤ micros.toInt / 1000 ∧ micros.toInt / 1000 < msPerDay := by
    simp only [usPerDay] at hday
    simp only [msPerDay]
    omega
  obtain ⟨stored, hstored⟩ := exists_msToTime_iff.mpr (hshifted.symm ▸ hin)
  refine ⟨ms, stored, hfetched, hstored, ?_⟩
  rw [(msToTime_eq_ok_iff.mp hstored).2, hshifted]

/-- **Times of day in both directions.**  Host milliseconds are stored exactly if they lie in one day once the
bias is added, in unbounded numbers; the steps of a store overflow outside of the day only, and what is
refused is named.  What is stored is fetched as the same milliseconds.  A stored time of day, if its host
milliseconds have room, is fetched and stored as the whole milliseconds of it. -/
theorem timeOfDay_roundTrips (bias : Int64) :
    (∀ ms : Int64,
        ((∃ micros, msToTime ms bias = .ok micros)
            ↔ 0 ≤ ms.toInt + bias.toInt ∧ ms.toInt + bias.toInt < 86400000)
          ∧ (∀ micros, msToTime ms bias = .ok micros → timeToMs micros bias = some ms)
          ∧ (msToTime ms bias).toOption.map Int64.toInt = msToTime? ms.toInt bias.toInt
          ∧ ∀ failure, msToTime ms bias = .error failure →
              failure = .valueConversion "time" s!"{ms} ms is not a time of day")
      ∧ ∀ micros : Int64, 0 ≤ micros.toInt → micros.toInt < 86400000000 →
          IntWidth.w64.InRange (exactTimeMs micros.toInt bias.toInt) →
          ∃ ms stored, timeToMs micros bias = some ms ∧ msToTime ms bias = .ok stored
            ∧ stored.toInt = micros.toInt / 1000 * 1000 := by
  constructor
  · intro ms
    exact ⟨exists_msToTime_iff, fun _ => timeToMs_msToTime, toOption_msToTime ms bias,
      fun _ h => (msToTime_eq_error_iff.mp h).2⟩
  · intro micros hlow hhigh hfit
    exact msToTime_fetched ⟨hlow, hhigh⟩ hfit

/-- With a bias of one hour the last microsecond of a day is stored back as its last millisecond.  With the
largest bias midnight is stored from milliseconds of the far past, and one millisecond of 1970 overflows. -/
theorem timeOfDay_roundTrips_lastMicrosecond :
    (∃ ms stored, timeToMs 86399999999 defaultBias = some ms ∧ msToTime ms defaultBias = .ok stored
        ∧ stored.toInt = 86399999000)
      ∧ (∃ micros, msToTime (-9223372036854775807) 9223372036854775807 = .ok micros
          ∧ timeToMs micros 9223372036854775807 = some (-9223372036854775807))
      ∧ msToTime? 1 9223372036854775807 = none := by
  obtain ⟨-, hlast⟩ := timeOfDay_roundTrips defaultBias
  obtain ⟨hpast, -⟩ := timeOfDay_roundTrips 9223372036854775807
  obtain ⟨hiff, hback, -⟩ := hpast (-9223372036854775807)
  obtain ⟨micros, hmicros⟩ := hiff.mpr (by decide)
  exact ⟨hlast 86399999999 (by decide) (by decide) (by decide), ⟨micros, hmicros, hback micros hmicros⟩,
    by decide⟩

end ColumnBridge.HostClock
