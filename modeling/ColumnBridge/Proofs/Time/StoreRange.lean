import ColumnBridge.Proofs.Time.StoreFetch

/-!
The host milliseconds that have no room as timestamps.

A timestamp is put together from the midnight of its day and its time of day.  The first day with
64-bit timestamps begins before the first of them, so its midnight has no room, and what is left of that
day is refused with it.

* `HostClock.inRange_of_exactMicros`: shifted milliseconds have room wherever their timestamp has;
* `HostClock.inRange_midnightOfMs_iff`: so has the midnight, except on the first day, and
  `HostClock.dayOfMs_eq_firstDay_iff`: the milliseconds of that day;
* `HostClock.msToTimestamp_range`: what a store refuses, and what it gives for everything else.
-/

namespace ColumnBridge.HostClock

open Calendar

/-- The day on which the 64-bit timestamps begin. -/
def firstDay : ℤ := -106751992

/-- The host millisecond with which that day begins. -/
def firstDayMs : ℤ := -9223561540800000

section Exact

variable {ms : ℤ}

/-- Timestamps with room lie on the days from the first one to the last one. -/
lemma dayOfMs_bounds (h : IntWidth.w64.InRange (exactMicros ms)) :
    firstDay ≤ dayOfMs ms ∧ dayOfMs ms ≤ 106751991 := by
  have htime := timeOfMs_bounds ms
  rw [exactMicros_eq] at h
  simp only [IntWidth.InRange, IntWidth.least, IntWidth.bits, usPerDay, msPerDay, firstDay] at htime h ⊢
  omega

/-- Milliseconds whose timestamp has room are far from the bounds of machine integers. -/
lemma inRange_of_exactMicros (h : IntWidth.w64.InRange (exactMicros ms)) : IntWidth.w64.InRange ms := by
  have hday := dayOfMs_bounds h
  have hrest := yearRest_bounds ms
  have hms := hostYear_mul ms
  rw [dayOfMs_eq, newYear_eq] at hday
  simp only [firstDay, msPerYear, msPerDay, epochYear, IntWidth.InRange, IntWidth.least, IntWidth.bits]
    at hday hrest hms ⊢
  omega

/-- A timestamp with room has a midnight with room, except on the first day. -/
lemma inRange_midnightOfMs_iff (h : IntWidth.w64.InRange (exactMicros ms)) :
    IntWidth.w64.InRange (midnightOfMs ms) ↔ dayOfMs ms ≠ firstDay := by
  have hday := dayOfMs_bounds h
  simp only [midnightOfMs, IntWidth.InRange, IntWidth.least, IntWidth.bits, usPerDay, firstDay] at hday ⊢
  omega

/-- The first day begins no year, so its milliseconds are fetched back as they are. -/
lemma firstDayMs_add_timeOfMs (hday : dayOfMs ms = firstDay) : firstDayMs + timeOfMs ms = ms := by
  have hover : ¬ Overruns ms := by
    intro hover
    have hplace := (place_of_overruns hover).2
    rw [hday] at hplace
    exact absurd hplace (by decide)
  have hback := dayToMs_of_not_overruns hover
  have hfirst : dayToMs firstDay = firstDayMs := by decide
  rwa [hday, hfirst] at hback

/-- The first day has the milliseconds of one day. -/
lemma dayOfMs_eq_firstDay_iff :
    dayOfMs ms = firstDay ↔ firstDayMs ≤ ms ∧ ms < firstDayMs + msPerDay := by
  constructor
  · intro hday
    have htime := timeOfMs_bounds ms
    have hback := firstDayMs_add_timeOfMs hday
    omega
  · intro hms
    simp only [firstDayMs, msPerDay] at hms
    have hyear : ms / msPerYear = -292278 := by
      simp only [msPerYear]
      omega
    have hrest : ms % msPerYear / msPerDay = 355 := by
      simp only [msPerYear, msPerDay]
      omega
    rw [dayOfMs_eq, hostYear, hyear, hrest]
    decide

/-- The last hours of the first day have room, in microseconds. -/
lemma inRange_exactMicros_iff (hday : dayOfMs ms = firstDay) :
    IntWidth.w64.InRange (exactMicros ms) ↔ firstDayMs + 71945225 ≤ ms := by
  have htime := timeOfMs_bounds ms
  have hback := firstDayMs_add_timeOfMs hday
  rw [exactMicros_eq, hday]
  simp only [IntWidth.InRange, IntWidth.least, IntWidth.bits, usPerDay, msPerDay, firstDay] at htime ⊢
  omega

end Exact

/-! ### Machine integers -/

/-- A store keeps the microseconds wherever they have room, except on the first day. -/
lemma msToTimestamp_eq (ms bias : Int64) :
    msToTimestamp ms bias
      = if IntWidth.w64.InRange (exactMicros (ms.toInt + bias.toInt))
            ∧ dayOfMs (ms.toInt + bias.toInt) ≠ firstDay then
          .ok (Int64.ofInt (exactMicros (ms.toInt + bias.toInt)))
        else .error (.valueConversion "timestamp" "out of range") := by
  refine if_congr ⟨fun h => ?_, fun h => ?_⟩ rfl rfl
  · obtain ⟨-, hmidnight, hmicros⟩ := h
    exact ⟨hmicros, (inRange_midnightOfMs_iff hmicros).mp hmidnight⟩
  · obtain ⟨hmicros, hday⟩ := h
    exact ⟨inRange_of_exactMicros hmicros, (inRange_midnightOfMs_iff hmicros).mpr hday, hmicros⟩

/-- **The range of a store.**  A store refuses what has no room in microseconds and, besides, the fourteen
million milliseconds of the first day that have.  Everything else is stored exactly. -/
theorem msToTimestamp_range (ms bias : Int64) :
    (msToTimestamp ms bias = .error (.valueConversion "timestamp" "out of range")
        ↔ ¬ IntWidth.w64.InRange (exactMicros (ms.toInt + bias.toInt))
          ∨ (-9223561468854775 ≤ ms.toInt + bias.toInt ∧ ms.toInt + bias.toInt < -9223561454400000))
      ∧ ((∃ micros, msToTimestamp ms bias = .ok micros
            ∧ micros.toInt = exactMicros (ms.toInt + bias.toInt))
          ↔ IntWidth.w64.InRange (exactMicros (ms.toInt + bias.toInt))
            ∧ ¬ (-9223561468854775 ≤ ms.toInt + bias.toInt
              ∧ ms.toInt + bias.toInt < -9223561454400000)) := by
  rw [msToTimestamp_eq]
  generalize ms.toInt + bias.toInt = shifted
  have hlost : IntWidth.w64.InRange (exactMicros shifted) →
      (dayOfMs shifted = firstDay
        ↔ -9223561468854775 ≤ shifted ∧ shifted < -9223561454400000) := by
    intro hmicros
    constructor
    · intro hday
      have hlow := (inRange_exactMicros_iff hday).mp hmicros
      have hhigh := (dayOfMs_eq_firstDay_iff.mp hday).2
      simp only [firstDayMs, msPerDay] at hlow hhigh
      omega
    · intro h
      refine dayOfMs_eq_firstDay_iff.mpr ?_
      simp only [firstDayMs, msPerDay]
      omega
  by_cases hmicros : IntWidth.w64.InRange (exactMicros shifted)
  · have hvalue := toInt_ofInt64 hmicros
    rw [← hlost hmicros]
    by_cases hday : dayOfMs shifted = firstDay
    · simp [hday]
    · simp [hmicros, hday, hvalue]
  · simp [hmicros]

/-- Nearly 20 hours into the first day, the microseconds have room and are refused. -/
theorem msToTimestamp_range_firstDay :
    exactMicros ((-9223561468854775 : Int64).toInt + (0 : Int64).toInt) = -9223372036854775000
      ∧ IntWidth.w64.InRange (-9223372036854775000)
      ∧ msToTimestamp (-9223561468854775) 0
        = .error (.valueConversion "timestamp" "out of range") :=
  ⟨by decide, by decide, by rfl⟩

end ColumnBridge.HostClock
