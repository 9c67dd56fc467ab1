import ColumnBridge.Proofs.Time.Timestamp

/-!
Host milliseconds that are stored and fetched back.

A host year is six hours longer than the 365 days of a year that is not a leap year.  The milliseconds of
these hours are stored on the day after the last one, which is January 1 of the next year, and a host
year begins there only six hours later.

* `HostClock.Overruns`: the milliseconds that lie behind the days of their year;
* `HostClock.dayToMs_of_not_overruns`, `HostClock.dayToMs_of_overruns`: what all other milliseconds and
  those are fetched back as, without bounds;
* `HostClock.not_fallsLate_dayOfMs`: no millisecond is stored where a fetch and a second store would move
  it to the next year;
* `HostClock.timestampToMs_msToTimestamp`: for machine integers, with the milliseconds that are stored
  alike;
* `HostClock.msToDate_dateToMs`, `HostClock.timeToMs_msToTime`, `HostClock.msToTimestamp_restored`: what is
  stored, or in a date column at all, is fetched and stored again as it was.
-/

namespace ColumnBridge.HostClock

open Calendar

/-- The calendar year that a host millisecond is counted in. -/
def hostYear (ms : ℤ) : ℤ := epochYear + ms / msPerYear

/-- The time of day of a host millisecond. -/
def timeOfMs (ms : ℤ) : ℤ := ms % msPerYear % msPerDay

/-- A host millisecond lies behind the days of its year: 365 of them are over, and it is no leap year. -/
def Overruns (ms : ℤ) : Prop := ¬ IsLeap (hostYear ms) ∧ 365 * msPerDay ≤ ms % msPerYear

instance (ms : ℤ) : Decidable (Overruns ms) := inferInstanceAs (Decidable (_ ∧ _))

section Exact

variable {ms : ℤ}

lemma exactMicros_eq (ms : ℤ) : exactMicros ms = dayOfMs ms * usPerDay + timeOfMs ms * 1000 := rfl

lemma dayOfMs_eq (ms : ℤ) : dayOfMs ms = newYear (hostYear ms) + ms % msPerYear / msPerDay := rfl

lemma timeOfMs_bounds (ms : ℤ) : 0 ≤ timeOfMs ms ∧ timeOfMs ms < msPerDay :=
  ⟨Int.emod_nonneg _ (by decide), Int.emod_lt_of_pos _ (by decide)⟩

lemma yearRest_bounds (ms : ℤ) : 0 ≤ ms % msPerYear ∧ ms % msPerYear < msPerYear :=
  ⟨Int.emod_nonneg _ (by decide), Int.emod_lt_of_pos _ (by decide)⟩

/-- The day of a host millisecond lies in the year of the host, and as far into it. -/
lemma place_of_not_overruns (h : ¬ Overruns ms) :
    (dateOfDay (dayOfMs ms)).year = hostYear ms
      ∧ position (dayOfMs ms) = ms % msPerYear / msPerDay := by
  have hrest := yearRest_bounds ms
  have hday : newYear (hostYear ms) ≤ dayOfMs ms ∧ dayOfMs ms < newYear (hostYear ms + 1) := by
    rw [dayOfMs_eq, newYear_succ]
    simp only [Overruns, msPerDay, msPerYear, not_and, not_le] at h hrest ⊢
    split_ifs with hleap
    · omega
    · have hin : ms % 31557600000 < 365 * 86400000 := by
        by_contra hout
        exact hleap (by_contra fun hnot => hout (h hnot))
      omega
  have hyear := year_eq_of_newYear hday.1 hday.2
  refine ⟨hyear, ?_⟩
  rw [position, hyear, dayOfMs_eq, add_sub_cancel_left]

/-- Behind the days of the year of the host the day is January 1 of the next year. -/
lemma place_of_overruns (h : Overruns ms) :
    (dateOfDay (dayOfMs ms)).year = hostYear ms + 1 ∧ position (dayOfMs ms) = 0 := by
  obtain ⟨hleap, hover⟩ := h
  have hrest := yearRest_bounds ms
  have hday : dayOfMs ms = newYear (hostYear ms + 1) := by
    rw [dayOfMs_eq, newYear_succ, if_neg hleap]
    simp only [msPerDay, msPerYear] at hover hrest ⊢
    omega
  have hyear : (dateOfDay (dayOfMs ms)).year = hostYear ms + 1 :=
    year_eq_of_newYear hday.ge (hday.trans_lt (strictMono_newYear (lt_add_one _)))
  exact ⟨hyear, by rw [position, hyear, hday, sub_self]⟩

/-- Days and time of day of a millisecond make up what it is into its year. -/
lemma yearRest_eq (ms : ℤ) : ms % msPerYear / msPerDay * msPerDay + timeOfMs ms = ms % msPerYear :=
  Int.ediv_mul_add_emod ..

lemma hostYear_mul (ms : ℤ) : (hostYear ms - epochYear) * msPerYear + ms % msPerYear = ms := by
  rw [hostYear, add_sub_cancel_left]
  exact Int.ediv_mul_add_emod ..

/-- In its own year a host millisecond is fetched back as it is. -/
lemma dayToMs_of_not_overruns (h : ¬ Overruns ms) : dayToMs (dayOfMs ms) + timeOfMs ms = ms := by
  obtain ⟨hyear, hposition⟩ := place_of_not_overruns h
  calc dayToMs (dayOfMs ms) + timeOfMs ms
      = (hostYear ms - epochYear) * msPerYear
          + (ms % msPerYear / msPerDay * msPerDay + timeOfMs ms) := by
        rw [dayToMs_eq, hyear, hposition]
        ring
    _ = ms := by rw [yearRest_eq, hostYear_mul]

/-- Behind the days of its year a host millisecond is fetched back as the same time after the beginning
of the next host year. -/
lemma dayToMs_of_overruns (h : Overruns ms) :
    dayToMs (dayOfMs ms) + timeOfMs ms = ms + quarterDayMs := by
  obtain ⟨hyear, hposition⟩ := place_of_overruns h
  have hlast : ms % msPerYear / msPerDay = 365 := by
    have hrest := yearRest_bounds ms
    have hover := h.2
    simp only [msPerDay, msPerYear] at hover hrest ⊢
    omega
  have hrest := yearRest_eq ms
  rw [hlast] at hrest
  calc dayToMs (dayOfMs ms) + timeOfMs ms
      = (hostYear ms - epochYear) * msPerYear + ms % msPerYear + quarterDayMs := by
        rw [dayToMs_eq, hyear, hposition, ← hrest]
        simp only [msPerDay, msPerYear, quarterDayMs]
        ring
    _ = ms + quarterDayMs := by rw [hostYear_mul]

/-- No host millisecond is stored in those hours of a day that fall into the next host year. -/
lemma not_fallsLate_dayOfMs (ms : ℤ) : ¬ FallsLate (dayOfMs ms) (timeOfMs ms) := by
  rw [fallsLate_iff (timeOfMs_bounds ms), not_le]
  by_cases h : Overruns ms
  · rw [(place_of_overruns h).2, zero_mul, zero_add]
    exact (timeOfMs_bounds ms).2.trans (by decide)
  · rw [(place_of_not_overruns h).2, yearRest_eq]
    exact (yearRest_bounds ms).2

/-- A time of day in microseconds is taken apart from its midnight. -/
lemma exactTimestampMs_exactMicros (ms bias : ℤ) :
    exactTimestampMs (exactMicros ms) bias = dayToMs (dayOfMs ms) + timeOfMs ms - bias := by
  have htime := timeOfMs_bounds ms
  have hday : exactMicros ms / usPerDay = dayOfMs ms := by
    rw [exactMicros_eq]
    simp only [usPerDay, msPerDay] at htime ⊢
    omega
  have hrest : exactMicros ms % usPerDay / 1000 = timeOfMs ms := by
    rw [exactMicros_eq]
    simp only [usPerDay, msPerDay] at htime ⊢
    omega
  rw [exactTimestampMs, hday, hrest]

/-- What a stored host millisecond is fetched back as, without bounds. -/
lemma exactTimestampMs_of_ms (ms bias : ℤ) :
    exactTimestampMs (exactMicros (ms + bias)) bias
      = if Overruns (ms + bias) then ms + quarterDayMs else ms := by
  rw [exactTimestampMs_exactMicros]
  split_ifs with h
  · rw [dayToMs_of_overruns h]
    ring
  · rw [dayToMs_of_not_overruns h, add_sub_cancel_right]

end Exact

/-! ### Machine integers -/

/-- **Storing and fetching back.**  A stored host millisecond whose host milliseconds are machine integers
is fetched back as it was, except behind the 365 days of a host year that is no leap year, where it comes
back six hours later.  Two host milliseconds are stored alike only if they are six hours apart and the
earlier one lies there. -/
theorem timestampToMs_msToTimestamp {ms bias micros : Int64}
    (h : msToTimestamp ms bias = .ok micros) :
    (IntWidth.w64.InRange (exactTimestampMs micros.toInt bias.toInt) →
        ∃ fetched, timestampToMs micros bias = some fetched ∧ fetched.toInt =
          if ¬ IsLeap (1970 + (ms.toInt + bias.toInt) / 31557600000)
              ∧ 365 * 86400000 ≤ (ms.toInt + bias.toInt) % 31557600000 then
            ms.toInt + 21600000
          else ms.toInt)
      ∧ ∀ later : Int64, msToTimestamp later bias = .ok micros → ms.toInt < later.toInt →
          later.toInt = ms.toInt + 21600000
            ∧ ¬ IsLeap (1970 + (ms.toInt + bias.toInt) / 31557600000)
            ∧ 365 * 86400000 ≤ (ms.toInt + bias.toInt) % 31557600000 := by
  have hfetch : exactTimestampMs micros.toInt bias.toInt
      = if Overruns (ms.toInt + bias.toInt) then ms.toInt + quarterDayMs else ms.toInt := by
    rw [(msToTimestamp_eq_ok_iff.mp h).2, exactTimestampMs_of_ms]
  refine ⟨fun hrange => ?_, ?_⟩
  · obtain ⟨fetched, hfetched, hvalue⟩ := exists_timestampToMs hrange
    exact ⟨fetched, hfetched, hvalue.trans hfetch⟩
  intro later hlater hlt
  have hagain : exactTimestampMs micros.toInt bias.toInt
      = if Overruns (later.toInt + bias.toInt) then later.toInt + quarterDayMs
        else later.toInt := by
    rw [(msToTimestamp_eq_ok_iff.mp hlater).2, exactTimestampMs_of_ms]
  rw [hfetch] at hagain
  -- a fetch moves nothing back, so only the earlier one can have been moved
  by_cases hover : Overruns (ms.toInt + bias.toInt)
  · refine ⟨?_, hover⟩
    simp only [if_pos hover, quarterDayMs] at hagain
    split_ifs at hagain <;> omega
  · simp only [if_neg hover, quarterDayMs] at hagain
    split_ifs at hagain <;> omega

/-- One hour behind the 365 days of 1970 is stored and fetched back as seven hours behind them, and both
are stored alike. -/
theorem timestampToMs_msToTimestamp_yearEnd :
    (∃ fetched, timestampToMs 31539600000000 0 = some fetched
        ∧ fetched.toInt = 31539600000 + 21600000)
      ∧ msToTimestamp 31539600000 0 = .ok 31539600000000
      ∧ msToTimestamp 31561200000 0 = .ok 31539600000000 := by
  have hstored : msToTimestamp 31539600000 0 = .ok 31539600000000 := by rfl
  have hlater : msToTimestamp 31561200000 0 = .ok 31539600000000 := by rfl
  obtain ⟨hfetched, hsame⟩ := timestampToMs_msToTimestamp hstored
  obtain ⟨-, hleap, hover⟩ := hsame 31561200000 hlater (by decide)
  obtain ⟨fetched, hfetched, hvalue⟩ := hfetched (by decide)
  exact ⟨⟨fetched, hfetched, hvalue.trans (if_pos ⟨hleap, hover⟩)⟩, hstored, hlater⟩

/-! ### What was stored is stored again -/

/-- The host milliseconds of a date are a machine integer. -/
lemma toInt_dateToMs (day : Int32) : (dateToMs day).toInt = dayToMs day.toInt := by
  have hrange := inRange_dayToMs_of_inRange (IntWidth.inRange_toInt .w32 day) ⟨le_rfl, by decide⟩
  rw [add_zero] at hrange
  exact toInt_ofInt64 hrange

/-- A day is found again at its own midnight. -/
lemma dayOfMs_dayToMs (day : ℤ) : dayOfMs (dayToMs day) = day := by
  have hearly : ¬ FallsLate day 0 := fun h => absurd h.2 (by decide)
  obtain ⟨hmidnight, -⟩ := exactMicros_of_not_fallsLate ⟨le_rfl, by decide⟩ hearly
  rw [add_zero, midnightOfMs] at hmidnight
  exact mul_right_cancel₀ (by decide) hmidnight

/-- Every date is fetched and stored again as it was. -/
theorem msToDate_dateToMs (day : Int32) : msToDate (dateToMs day) = .ok day := by
  rw [msToDate_eq_ok_iff, toInt_dateToMs, dayOfMs_dayToMs]

/-- A stored time of day is fetched back as the host milliseconds that were stored. -/
lemma timeToMs_msToTime {ms bias micros : Int64} (h : msToTime ms bias = .ok micros) :
    timeToMs micros bias = some ms := by
  obtain ⟨-, hmicros⟩ := msToTime_eq_ok_iff.mp h
  rw [timeToMs_eq_some_iff, exactTimeMs, hmicros, Int.mul_tdiv_cancel _ (by decide), add_sub_cancel_right]

/-- A stored timestamp whose host milliseconds are machine integers is fetched and stored again as it
was: it does not lie where a second store would move it. -/
theorem msToTimestamp_restored {ms bias micros : Int64} (h : msToTimestamp ms bias = .ok micros)
    (hfit : IntWidth.w64.InRange (exactTimestampMs micros.toInt bias.toInt)) :
    ∃ fetched, timestampToMs micros bias = some fetched ∧ msToTimestamp fetched bias = .ok micros := by
  obtain ⟨⟨-, hmidnight⟩, hmicros⟩ := msToTimestamp_eq_ok_iff.mp h
  set shifted := ms.toInt + bias.toInt with hshifted
  have htime := timeOfMs_bounds shifted
  obtain ⟨fetched, hfetched, hvalue⟩ := exists_timestampToMs hfit
  have hagain : fetched.toInt + bias.toInt = dayToMs (dayOfMs shifted) + timeOfMs shifted := by
    rw [hvalue, hmicros, exactTimestampMs_exactMicros, sub_add_cancel]
  obtain ⟨hsameDay, hsame⟩ := exactMicros_of_not_fallsLate htime (not_fallsLate_dayOfMs shifted)
  have hbounds : -106751992 ≤ dayOfMs shifted ∧ dayOfMs shifted ≤ 106751991 := by
    simp only [midnightOfMs, usPerDay, IntWidth.InRange, IntWidth.least, IntWidth.bits] at hmidnight
    omega
  refine ⟨fetched, hfetched, msToTimestamp_eq_ok_iff.mpr ?_⟩
  rw [hagain]
  refine ⟨⟨inRange_dayToMs hbounds htime, ?_⟩, ?_⟩
  · rw [hsameDay]
    exact hmidnight
  · rw [hsame, hmicros, exactMicros_eq]

end ColumnBridge.HostClock
