import ColumnBridge.HostClock
import ColumnBridge.Proofs.Time.Dates

/-!
Where the calendar overflows in 64-bit arithmetic.

* `Calendar.dateOfDay?_eq`, `Calendar.dayNumber?_eq`, `Calendar.dayOfYear?_eq`: where a step does, and that
  they give the same everywhere else;
* `Calendar.dateOfDay_isCalendar`: the routines are the proleptic Gregorian calendar.
-/

namespace ColumnBridge.Calendar

/-! ### Steps that do not overflow -/

section Steps

variable {n : ℤ}

lemma inRange_iff : IntWidth.w64.InRange n ↔ -9223372036854775808 ≤ n ∧ n < 9223372036854775808 :=
  Iff.rfl

lemma checked_eq (h : -9223372036854775808 ≤ n ∧ n < 9223372036854775808) : checked n = some n :=
  if_pos h

/-- A step that does not overflow hands its result on. -/
lemma checked_bind {α : Type} {next : ℤ → Option α}
    (h : -9223372036854775808 ≤ n ∧ n < 9223372036854775808) : (checked n >>= next) = next n := by
  rw [checked_eq h]
  rfl

lemma some_bind {α β : Type} {a : α} {next : α → Option β} : (some a >>= next) = next a := rfl

/-- What a step gives is its result, which is a 64-bit integer. -/
lemma checked_eq_some_iff {m : ℤ} : checked n = some m ↔ IntWidth.w64.InRange n ∧ n = m :=
  Option.ite_none_right_eq_some.trans (and_congr_right' Option.some_inj)

/-- A lowered negative number is truncated to the quotient rounded down. -/
lemma tdiv_lowered {d : ℤ} (hd : 0 < d) (hn : n < 0) : (n - (d - 1)).tdiv d = n / d := by
  have hlow : n - (d - 1) = -(d - 1 - n % d + -(n / d) * d) := by
    linear_combination -Int.ediv_mul_add_emod n d
  have hlt := Int.emod_lt_of_pos n hd
  have hnonneg := Int.emod_nonneg n hd.ne'
  have hpos : 0 ≤ d - 1 - n % d + -(n / d) * d := by omega
  rw [hlow, Int.neg_tdiv, Int.tdiv_eq_ediv_of_nonneg hpos, Int.add_mul_ediv_right _ _ hd.ne',
    Int.ediv_eq_zero_of_lt (by omega) (by omega), zero_add, neg_neg]

lemma floorDiv?_eq {d : ℤ} (hd : 0 < d) (h : -9223372036854775808 ≤ n - (d - 1)) :
    floorDiv? n d = some (n / d) := by
  rw [floorDiv?]
  split_ifs with hpos
  · rw [← Int.tdiv_eq_ediv_of_nonneg hpos]
    rfl
  · rw [← tdiv_lowered hd (not_le.mp hpos)]
    exact checked_bind (by omega)

/-- If there is a quotient, it is the one that is rounded down. -/
lemma eq_of_floorDiv? {d q : ℤ} (hd : 0 < d) (h : floorDiv? n d = some q) : q = n / d := by
  rw [floorDiv?] at h
  split_ifs at h with hpos
  · rw [← Int.tdiv_eq_ediv_of_nonneg hpos]
    exact (Option.some.inj h).symm
  · obtain ⟨lowered, hlowered, hq⟩ := Option.bind_eq_some_iff.mp h
    obtain ⟨-, rfl⟩ := checked_eq_some_iff.mp hlowered
    rw [← tdiv_lowered hd (not_le.mp hpos)]
    exact (Option.some.inj hq).symm

lemma yearOfEra?_eq (h : 0 ≤ n ∧ n < 146097) : yearOfEra? n = some (yearOfEra n) := by
  simp only [yearOfEra?, yearOfEra, Int.tdiv_eq_ediv_of_nonneg h.1]
  rw [checked_bind (by omega), checked_bind (by omega), checked_bind (by omega),
    Int.tdiv_eq_ediv_of_nonneg (by omega)]
  rfl

lemma daysBeforeYear?_eq (h : 0 ≤ n ∧ n < 400) : daysBeforeYear? n = some (daysBeforeYear n) := by
  simp only [daysBeforeYear?, daysBeforeYear, Int.tdiv_eq_ediv_of_nonneg h.1]
  rw [checked_bind (by omega), checked_bind (by omega), checked_eq (by omega)]

lemma daysBeforeYear_bounds (h : 0 ≤ n ∧ n < 400) :
    0 ≤ daysBeforeYear n ∧ daysBeforeYear n ≤ 145731 := by
  rw [daysBeforeYear]
  omega

lemma daysBeforeMonth?_eq (h : 0 ≤ n ∧ n ≤ 11) : daysBeforeMonth? n = some (daysBeforeMonth n) := by
  rw [daysBeforeMonth?, checked_bind (by omega), checked_bind (by omega),
    Int.tdiv_eq_ediv_of_nonneg (by omega)]
  rfl

variable {d : Date}

lemma marchYear?_eq (h : -9223372036854775808 ≤ marchYear d ∧ marchYear d < 9223372036854775808) :
    marchYear? d = some (marchYear d) := by
  rw [marchYear] at h
  rw [marchYear?, marchYear]
  split_ifs at h ⊢
  · exact checked_eq h
  · rfl

lemma eq_of_marchYear? {year : ℤ} (h : marchYear? d = some year) : year = marchYear d := by
  rw [marchYear?] at h
  rw [marchYear]
  split_ifs at h ⊢
  · exact (checked_eq_some_iff.mp h).2.symm
  · exact (Option.some.inj h).symm

lemma position_le_of_isValid (h : d.IsValid) : marchPosition d ≤ 365 := by
  have hposition := h.position_bounds.2
  split_ifs at hposition <;> omega

lemma marchPosition?_eq (h : d.IsValid) : marchPosition? d = some (marchPosition d) := by
  have hfirst := h.position_bounds.2.1
  have hlast := position_le_of_isValid h
  have hsum : daysBeforeMonth (marchIndex d) + d.day = marchPosition d + 1 := by
    rw [marchPosition, sub_add_cancel]
  rw [marchPosition?, daysBeforeMonth?_eq h.index_bounds, some_bind, hsum, checked_bind (by omega),
    add_sub_cancel_right, checked_eq (by omega)]

end Steps

/-! ### The routines -/

/-- The date of a day is computed without overflow just where the days before 1970 can be added. -/
theorem dateOfDay?_eq {n : ℤ} (hn : IntWidth.w64.InRange n) :
    dateOfDay? n = if IntWidth.w64.InRange (n + epochOffset) then some (dateOfDay n) else none := by
  split_ifs with hera
  · obtain ⟨c, q, a, s, h⟩ := exists_eraDay_of_day n
    rw [dateOfDay_eq h rfl]
    rw [inRange_iff] at hn hera
    simp only [dateOfDay?, epochOffset, daysPerEra] at h hera ⊢
    obtain ⟨z, hz⟩ : ∃ z, z = n + 719468 := ⟨_, rfl⟩
    obtain ⟨era, hquotient⟩ : ∃ era, era = z / 146097 := ⟨_, rfl⟩
    rw [← hz] at h hera ⊢
    have hdayOfEra : z - era * 146097 = z % 146097 := by omega
    have hyear := h.yearOfEra_eq
    have hbefore : z % 146097 - daysBeforeYear (100 * c + 4 * q + a) = s := by
      rw [h.daysBeforeYear_eq, sub_sub_cancel]
    obtain ⟨hc, hq, ha, hs, -, -⟩ := h
    rw [checked_bind (by omega), floorDiv?_eq (by decide) (by omega), some_bind, ← hquotient,
      checked_bind (by omega), checked_bind (by omega), hdayOfEra, yearOfEra?_eq (by omega), some_bind,
      hyear, daysBeforeYear?_eq (by omega), some_bind, hbefore, checked_bind (by omega),
      checked_bind (by omega), checked_bind (by omega), Int.tdiv_eq_ediv_of_nonneg (by omega)]
    obtain ⟨index, hindex⟩ : ∃ index, index = (5 * s + 2) / 153 := ⟨_, rfl⟩
    rw [← hindex, daysBeforeMonth?_eq (by omega), some_bind, daysBeforeMonth]
    rw [checked_bind (by omega), checked_bind (by omega), checked_bind (by omega),
      checked_bind (by omega), checked_bind (by split_ifs <;> omega)]
    rfl
  · rw [dateOfDay?, checked, if_neg hera]
    rfl

lemma dayNumber?_of_inRange {d : Date} (h : d.IsValid) (hn : IntWidth.w64.InRange (dayNumber d))
    (hera : IntWidth.w64.InRange (dayNumber d + epochOffset)) :
    dayNumber? d = some (dayNumber d) := by
  have hfirst := h.position_bounds.2.1
  have hlast := position_le_of_isValid h
  rw [inRange_iff, dayNumber_eq, marchDay] at hn hera
  rw [dayNumber_eq, marchDay]
  obtain ⟨era, hquotient⟩ : ∃ era, era = marchYear d / 400 := ⟨_, rfl⟩
  obtain ⟨year, hrest⟩ : ∃ year, year = marchYear d % 400 := ⟨_, rfl⟩
  have hsum : marchYear d - era * 400 = year := by omega
  have hbounds : 0 ≤ year ∧ year < 400 := by omega
  have hbefore := daysBeforeYear_bounds hbounds
  simp only [dayNumber?, epochOffset, daysPerEra, ← hquotient, ← hrest] at hn hera ⊢
  rw [marchYear?_eq (by omega), some_bind, floorDiv?_eq (by decide) (by omega), some_bind,
    ← hquotient, checked_bind (by omega), checked_bind (by omega), hsum, marchPosition?_eq h, some_bind,
    daysBeforeYear?_eq hbounds, some_bind, checked_bind (by omega), checked_bind (by omega),
    checked_bind (by omega), checked_eq (by omega)]
  congr 1
  ring

lemma inRange_of_dayNumber? {d : Date} {n : ℤ} (h : d.IsValid) (hn : dayNumber? d = some n) :
    IntWidth.w64.InRange (dayNumber d) ∧ IntWidth.w64.InRange (dayNumber d + epochOffset) := by
  simp only [dayNumber?, Option.bind_eq_bind, Option.bind_eq_some_iff, checked_eq_some_iff] at hn
  obtain ⟨year, hyear, era, hquotient, _, ⟨-, rfl⟩, _, ⟨-, rfl⟩, position, hposition, before, hbefore,
    _, ⟨-, rfl⟩, _, ⟨-, rfl⟩, _, ⟨hera, rfl⟩, hlast, -⟩ := hn
  obtain rfl := eq_of_marchYear? hyear
  obtain rfl := eq_of_floorDiv? (by decide) hquotient
  rw [marchPosition?_eq h, Option.some_inj] at hposition
  have hrest : marchYear d - marchYear d / 400 * 400 = marchYear d % 400 := by omega
  rw [hrest, daysBeforeYear?_eq (by omega), Option.some_inj] at hbefore
  have hnumber : dayNumber d + epochOffset = marchYear d / 400 * daysPerEra + (before + position) := by
    rw [dayNumber_eq, marchDay, hposition, hbefore]
    ring
  rw [eq_sub_of_add_eq hnumber, sub_add_cancel]
  exact ⟨hlast, hera⟩

/-- The day number of a date is computed without overflow just where it has room and the days before 1970
can be added to it. -/
theorem dayNumber?_eq {d : Date} (h : d.IsValid) :
    dayNumber? d
      = if IntWidth.w64.InRange (dayNumber d) ∧ IntWidth.w64.InRange (dayNumber d + epochOffset) then
          some (dayNumber d)
        else none := by
  split_ifs with hin
  · exact dayNumber?_of_inRange h hin.1 hin.2
  · exact Option.eq_none_iff_forall_ne_some.mpr fun n hn => hin (inRange_of_dayNumber? h hn)

/-- The place of a day in its year is computed without overflow just where its date is and where the year
begins on a 64-bit integer. -/
theorem dayOfYear?_eq {n : ℤ} (hn : IntWidth.w64.InRange n) :
    dayOfYear? n
      = if IntWidth.w64.InRange (n + epochOffset)
            ∧ IntWidth.w64.InRange (newYear (dateOfDay n).year) then
          some (dayOfYear n)
        else none := by
  have hfirst := position_nonneg n
  have hlast := position_le n
  have hday : newYear (dateOfDay n).year = n - position n := (sub_sub_cancel ..).symm
  have hnumber := dayNumber?_eq (isValid_firstDay (dateOfDay n).year)
  rw [← newYear, hday] at hnumber
  rw [dayOfYear?, dateOfDay?_eq hn, hday]
  by_cases hera : IntWidth.w64.InRange (n + epochOffset)
  · rw [if_pos hera, some_bind, hnumber]
    by_cases hyear : IntWidth.w64.InRange (n - position n)
    · have hsum : IntWidth.w64.InRange (n - position n + epochOffset) := by
        simp only [inRange_iff, epochOffset] at hera hyear ⊢
        omega
      rw [if_pos ⟨hyear, hsum⟩, if_pos ⟨hera, hyear⟩, some_bind, checked_bind (by omega),
        checked_bind (by omega), dayOfYear_eq, sub_sub_cancel]
      rfl
    · rw [if_neg fun h => hyear h.1, if_neg fun h => hyear h.2]
      rfl
  · rw [if_neg hera, if_neg fun h => hera h.1]
    rfl

/-- Nothing overflows on a day: the days before 1970 can be added to it, and its year begins on a 64-bit
integer. -/
def Fits (n : ℤ) : Prop :=
  IntWidth.w64.InRange n ∧ IntWidth.w64.InRange (n + epochOffset)
    ∧ IntWidth.w64.InRange (newYear (dateOfDay n).year)

instance (n : ℤ) : Decidable (Fits n) := inferInstanceAs (Decidable (_ ∧ _))

/-- Days that are far from the bounds fit. -/
lemma fits_of_bounds {n : ℤ} (h : -9223372036854775000 ≤ n ∧ n < 9223372036854000000) : Fits n := by
  have hfirst := position_nonneg n
  have hlast := position_le n
  have hday : newYear (dateOfDay n).year = n - position n := (sub_sub_cancel ..).symm
  rw [Fits, hday, inRange_iff, inRange_iff, inRange_iff, epochOffset]
  omega

/-- The days of dates fit. -/
lemma fits_date (day : Int32) : Fits day.toInt := by
  have hlow := Int32.le_toInt day
  have hhigh := Int32.toInt_lt day
  exact fits_of_bounds (by omega)

/-- The days of timestamps fit. -/
lemma fits_timestamp (micros : Int64) : Fits (micros.toInt / HostClock.usPerDay) := by
  have hlow := Int64.le_toInt micros
  have hhigh := Int64.toInt_lt micros
  rw [HostClock.usPerDay]
  exact fits_of_bounds (by omega)

/-- **The proleptic Gregorian calendar.**  Day zero is January 1 of 1970, and the next day has the next
date, by the lengths of months and the rule for leap years.  So every day has a valid date, which stands
for no other day, and every valid date is the date of a day; and a day is placed in the year of its date,
at a position that is 366 in leap years only.  The same comes out of 64-bit arithmetic wherever no step
overflows, as on the days of all dates and of all timestamps. -/
theorem dateOfDay_isCalendar :
    dateOfDay 0 = ⟨1970, 1, 1⟩
      ∧ (∀ n, dateOfDay (n + 1) = (dateOfDay n).next)
      ∧ (∀ n, (dateOfDay n).IsValid ∧ dayNumber (dateOfDay n) = n)
      ∧ (∀ d : Date, d.IsValid → dateOfDay (dayNumber d) = d)
      ∧ (∀ n, (dayOfYear n).1 = (dateOfDay n).year
          ∧ dayNumber ⟨(dateOfDay n).year, 1, 1⟩ + ((dayOfYear n).2 - 1) = n
          ∧ 1 ≤ (dayOfYear n).2 ∧ (dayOfYear n).2 ≤ if IsLeap (dateOfDay n).year then 366 else 365)
      ∧ (∀ n, IntWidth.w64.InRange n → dateOfDay? n
          = if IntWidth.w64.InRange (n + epochOffset) then some (dateOfDay n) else none)
      ∧ (∀ d : Date, d.IsValid → dayNumber? d
          = if IntWidth.w64.InRange (dayNumber d) ∧ IntWidth.w64.InRange (dayNumber d + epochOffset) then
              some (dayNumber d)
            else none)
      ∧ (∀ n, IntWidth.w64.InRange n → dayOfYear? n
          = if IntWidth.w64.InRange (n + epochOffset)
                ∧ IntWidth.w64.InRange (newYear (dateOfDay n).year) then
              some (dayOfYear n)
            else none)
      ∧ (∀ day : Int32, Fits day.toInt)
      ∧ ∀ micros : Int64, Fits (micros.toInt / HostClock.usPerDay) := by
  refine ⟨by decide, dateOfDay_succ, fun n => ⟨dateOfDay_isValid n, dayNumber_dateOfDay n⟩,
    fun _ => dateOfDay_dayNumber, fun n => ?_, fun _ => dateOfDay?_eq, fun _ => dayNumber?_eq,
    fun _ => dayOfYear?_eq, fits_date, fits_timestamp⟩
  have hlow := position_nonneg n
  have hhigh := lt_newYear_succ n
  have hposition : position n = n - newYear (dateOfDay n).year := rfl
  rw [newYear_succ] at hhigh
  rw [dayOfYear_eq]
  refine ⟨rfl, ?_, by omega, ?_⟩
  · rw [add_sub_cancel_right, hposition]
    exact add_sub_cancel ..
  · split_ifs at hhigh ⊢ <;> omega

/-- February 29 of 2000 is the date of its day.  December 31 of the year before year 0 is a day on which
64-bit arithmetic does not overflow; the first 64-bit day has a date, but its year begins before it. -/
theorem dateOfDay_isCalendar_leapDay :
    (⟨2000, 2, 29⟩ : Date).IsValid
      ∧ dateOfDay (dayNumber ⟨2000, 2, 29⟩) = ⟨2000, 2, 29⟩
      ∧ Fits (-719529)
      ∧ dateOfDay? (-719529) = some ⟨-1, 12, 31⟩
      ∧ dayNumber? ⟨-1, 12, 31⟩ = some (-719529)
      ∧ dayOfYear? (-719529) = some (-1, 365)
      ∧ dateOfDay? (-9223372036854775808) = some (dateOfDay (-9223372036854775808))
      ∧ dayOfYear? (-9223372036854775808) = none := by
  obtain ⟨-, -, -, hvalid, -, hdate, hnumber, hplace, -⟩ := dateOfDay_isCalendar
  exact ⟨by decide, hvalid ⟨2000, 2, 29⟩ (by decide), by decide, hdate (-719529) (by decide),
    hnumber ⟨-1, 12, 31⟩ (by decide), hplace (-719529) (by decide),
    hdate (-9223372036854775808) (by decide), hplace (-9223372036854775808) (by decide)⟩

end ColumnBridge.Calendar
