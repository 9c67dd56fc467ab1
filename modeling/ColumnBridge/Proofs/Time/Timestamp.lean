import ColumnBridge.Proofs.Time.FetchSteps

/-!
Timestamps that are fetched and stored back.

A host year is six hours longer than 365 days.  Of a leap year these are the first hours of December 31;
what is later on that day falls into the next host year, and so into January 1 of the next year.

* `HostClock.FallsLate`, `HostClock.fallsLate_iff`: the times that fall into the next host year;
* `HostClock.exactMicros_of_not_fallsLate`, `HostClock.exactMicros_of_fallsLate`: what all other times and
  those times are stored as, without bounds;
* `HostClock.msToTimestamp_timestampToMs`: for machine integers, with the two bounds that decide whether
  there is anything to store.
-/

namespace ColumnBridge.HostClock

open Calendar

/-- The hours of a host year that 365 days leave over, in milliseconds. -/
def quarterDayMs : ℤ := 21600000

/-- The time from there to the end of the day, in microseconds. -/
def lateShiftUs : ℤ := 64800000000

/-- A time of a day falls into the next host year. -/
def FallsLate (day time : ℤ) : Prop := EndsLeapYear day ∧ quarterDayMs ≤ time

instance (day time : ℤ) : Decidable (FallsLate day time) := inferInstanceAs (Decidable (_ ∧ _))

section Exact

variable {day time : ℤ}

/-- A time of a day falls into the next host year exactly if 365 days and a quarter are over. -/
lemma fallsLate_iff (htime : 0 ≤ time ∧ time < msPerDay) :
    FallsLate day time ↔ msPerYear ≤ position day * msPerDay + time := by
  have hpos := position_le day
  rw [FallsLate, ← position_eq_iff]
  simp only [quarterDayMs, msPerDay, msPerYear] at htime ⊢
  omega

/-- A host year begins with January 1 and goes on by whole days. -/
lemma exactMicros_hostYear (year : ℤ) {rest : ℤ} (hrest : 0 ≤ rest ∧ rest < msPerYear) :
    midnightOfMs (rest + (year - epochYear) * msPerYear)
        = (newYear year + rest / msPerDay) * usPerDay
      ∧ exactMicros (rest + (year - epochYear) * msPerYear)
        = (newYear year + rest / msPerDay) * usPerDay + rest % msPerDay * 1000 := by
  have hdiv : (rest + (year - epochYear) * msPerYear) / msPerYear = year - epochYear := by
    rw [Int.add_mul_ediv_right _ _ (by decide), Int.ediv_eq_zero_of_lt hrest.1 hrest.2, zero_add]
  have hmod : (rest + (year - epochYear) * msPerYear) % msPerYear = rest := by
    rw [Int.add_mul_emod_self_right, Int.emod_eq_of_lt hrest.1 hrest.2]
  have hmid : midnightOfMs (rest + (year - epochYear) * msPerYear)
      = (newYear year + rest / msPerDay) * usPerDay := by
    rw [midnightOfMs, dayOfMs, hdiv, hmod, add_sub_cancel]
    rfl
  exact ⟨hmid, by rw [exactMicros, hmid, hmod]⟩

/-- In its own host year a time is stored on its own day. -/
lemma exactMicros_of_not_fallsLate (htime : 0 ≤ time ∧ time < msPerDay) (h : ¬ FallsLate day time) :
    midnightOfMs (dayToMs day + time) = day * usPerDay
      ∧ exactMicros (dayToMs day + time) = day * usPerDay + time * 1000 := by
  rw [fallsLate_iff htime] at h
  have hpos := position_nonneg day
  have hrest : 0 ≤ position day * msPerDay + time ∧ position day * msPerDay + time < msPerYear := by
    refine ⟨?_, not_le.mp h⟩
    simp only [msPerDay] at htime ⊢
    omega
  have hms : dayToMs day + time = (position day * msPerDay + time)
      + ((dateOfDay day).year - epochYear) * msPerYear := by
    rw [dayToMs_eq]
    ring
  have hday : (position day * msPerDay + time) / msPerDay = position day := by
    rw [add_comm, Int.add_mul_ediv_right _ _ (by decide), Int.ediv_eq_zero_of_lt htime.1 htime.2,
      zero_add]
  have htimeOfDay : (position day * msPerDay + time) % msPerDay = time := by
    rw [add_comm, Int.add_mul_emod_self_right, Int.emod_eq_of_lt htime.1 htime.2]
  have hstored := exactMicros_hostYear (dateOfDay day).year hrest
  rwa [hday, htimeOfDay, ← hms, position, add_sub_cancel] at hstored

/-- In the next host year a time is stored on the next day, as much after midnight as it is after the
quarter. -/
lemma exactMicros_of_fallsLate (htime : 0 ≤ time ∧ time < msPerDay) (h : FallsLate day time) :
    midnightOfMs (dayToMs day + time) = (day + 1) * usPerDay
      ∧ exactMicros (dayToMs day + time) = day * usPerDay + time * 1000 + lateShiftUs := by
  obtain ⟨hends, hquarter⟩ := h
  have hday : 0 ≤ time - quarterDayMs ∧ time - quarterDayMs < msPerDay := by
    simp only [quarterDayMs, msPerDay] at hquarter htime ⊢
    omega
  have hms : dayToMs day + time
      = (time - quarterDayMs) + ((dateOfDay day).year + 1 - epochYear) * msPerYear := by
    rw [dayToMs_eq, (position_eq_iff day).mpr hends]
    simp only [quarterDayMs, msPerDay, msPerYear]
    ring
  have hstored := exactMicros_hostYear ((dateOfDay day).year + 1)
    ⟨hday.1, hday.2.trans (by decide)⟩
  rw [← hms, ← hends.succ_eq, Int.ediv_eq_zero_of_lt hday.1 hday.2, add_zero,
    Int.emod_eq_of_lt hday.1 hday.2] at hstored
  refine ⟨hstored.1, hstored.2.trans ?_⟩
  simp only [usPerDay, quarterDayMs, lateShiftUs]
  ring

end Exact

/-! ### Machine integers -/

/-- The last two days that have machine integers as timestamps lie in January. -/
lemma lt_of_endsLeapYear {day : ℤ} (h : EndsLeapYear day) (hday : day ≤ 106751991) :
    day < 106751990 := by
  by_contra hlast
  have hcases : day = 106751990 ∨ day = 106751991 := by omega
  rcases hcases with rfl | rfl
  · exact absurd h (by decide)
  · exact absurd h (by decide)

/-- The host milliseconds of a 32-bit day number are far from the bounds of machine integers. -/
lemma inRange_dayToMs_of_inRange {day time : ℤ} (hday : IntWidth.w32.InRange day)
    (htime : 0 ≤ time ∧ time < msPerDay) : IntWidth.w64.InRange (dayToMs day + time) := by
  have hpos := position_nonneg day
  have hpos' := position_le day
  have hposition : position day = day - newYear (dateOfDay day).year := rfl
  rw [newYear_eq] at hposition
  rw [dayToMs_eq]
  simp only [IntWidth.InRange, IntWidth.least, IntWidth.bits, msPerDay, msPerYear, epochYear]
    at hday htime ⊢
  omega

/-- So are those of a day that has machine integers as timestamps. -/
lemma inRange_dayToMs {day time : ℤ} (hday : -106751992 ≤ day ∧ day ≤ 106751991)
    (htime : 0 ≤ time ∧ time < msPerDay) : IntWidth.w64.InRange (dayToMs day + time) := by
  refine inRange_dayToMs_of_inRange ?_ htime
  simp only [IntWidth.InRange, IntWidth.least, IntWidth.bits]
  omega

/-- **Fetching and storing back.**  A timestamp whose host milliseconds and whose midnight are machine
integers is fetched and stored back as the whole milliseconds of it, except on December 31 of a leap
year from six in the morning on, where it comes back 18 hours later. -/
theorem msToTimestamp_timestampToMs {micros bias : Int64}
    (hms : IntWidth.w64.InRange (exactTimestampMs micros.toInt bias.toInt))
    (hmidnight : IntWidth.w64.InRange (micros.toInt / usPerDay * usPerDay)) :
    ∃ ms stored, timestampToMs micros bias = some ms ∧ msToTimestamp ms bias = .ok stored
      ∧ stored.toInt =
          if EndsLeapYear (micros.toInt / usPerDay)
              ∧ 21600000 ≤ micros.toInt % usPerDay / 1000 then
            micros.toInt / 1000 * 1000 + 64800000000
          else micros.toInt / 1000 * 1000 := by
  set day := micros.toInt / usPerDay with hday
  set time := micros.toInt % usPerDay / 1000 with htimeDef
  have hmicros := Int64.le_toInt micros
  have hmicros' := Int64.toInt_lt micros
  have htime : 0 ≤ time ∧ time < msPerDay := by
    simp only [usPerDay] at htimeDef
    simp only [msPerDay]
    omega
  have hbounds : -106751992 ≤ day ∧ day ≤ 106751991 := dayOfTimestamp_bounds micros
  obtain ⟨ms, hfetched, hvalue⟩ := exists_timestampToMs hms
  have hshifted : ms.toInt + bias.toInt = dayToMs day + time := by
    rw [hvalue, exactTimestampMs, sub_add_cancel]
  have hwhole : day * usPerDay + time * 1000 = micros.toInt / 1000 * 1000 := by
    simp only [usPerDay] at hday htimeDef ⊢
    omega
  have hrange := inRange_dayToMs hbounds htime
  -- whatever the day is that the timestamp comes back on, it is stored if midnight and it have room
  have hstore : ∀ {stored : ℤ}, IntWidth.w64.InRange (midnightOfMs (dayToMs day + time)) →
      exactMicros (dayToMs day + time) = stored → IntWidth.w64.InRange stored →
      ∃ ms result, timestampToMs micros bias = some ms ∧ msToTimestamp ms bias = .ok result
        ∧ result.toInt = stored := by
    rintro _ hmid rfl hin
    refine ⟨ms, Int64.ofInt _, hfetched, msToTimestamp_eq_ok_iff.mpr ?_, toInt_ofInt64 hin⟩
    rw [hshifted]
    exact ⟨⟨hrange, hmid⟩, toInt_ofInt64 hin⟩
  split_ifs with hlate
  · obtain ⟨hmid, hexact⟩ := exactMicros_of_fallsLate htime hlate
    have hearly := lt_of_endsLeapYear hlate.1 hbounds.2
    rw [hwhole] at hexact
    refine hstore ?_ hexact ?_
    · rw [hmid]
      simp only [IntWidth.InRange, IntWidth.least, IntWidth.bits, usPerDay]
      omega
    · simp only [IntWidth.InRange, IntWidth.least, IntWidth.bits, usPerDay, lateShiftUs] at *
      omega
  · obtain ⟨hmid, hexact⟩ := exactMicros_of_not_fallsLate htime hlate
    rw [hwhole] at hexact
    refine hstore (hmid ▸ hmidnight) hexact ?_
    simp only [IntWidth.InRange, IntWidth.least, IntWidth.bits, usPerDay] at *
    omega

/-- Seven in the morning of 2024-12-31 comes back as one in the morning of 2025-01-01, and the last
microsecond before 1970 as the last millisecond. -/
theorem msToTimestamp_timestampToMs_newYearsEve :
    (∃ ms stored, timestampToMs 1735628400000123 defaultBias = some ms
        ∧ msToTimestamp ms defaultBias = .ok stored ∧ stored.toInt = 1735693200000000)
      ∧ ∃ ms stored, timestampToMs (-1) defaultBias = some ms
        ∧ msToTimestamp ms defaultBias = .ok stored ∧ stored.toInt = -1000 := by
  obtain ⟨late, lateStored, hlate, hstored, hvalue⟩ :=
    @msToTimestamp_timestampToMs 1735628400000123 defaultBias (by decide) (by decide)
  obtain ⟨early, earlyStored, hearly, hstored', hvalue'⟩ :=
    @msToTimestamp_timestampToMs (-1) defaultBias (by decide) (by decide)
  exact ⟨⟨late, lateStored, hlate, hstored, hvalue.trans (by decide)⟩,
    early, earlyStored, hearly, hstored', hvalue'.trans (by decide)⟩

end ColumnBridge.HostClock
