import ColumnBridge.Proofs.Time.Gregorian

/-!
Dates one after the other.

* `Calendar.Date.IsValid`, `Calendar.Date.next`: the dates of the calendar and the order in which they
  come, by the lengths of months alone;
* `Calendar.dayNumber_next`: the next date has the next day number;
* `Calendar.dateOfDay_isValid`, `Calendar.dayNumber_dateOfDay`, `Calendar.dateOfDay_dayNumber`: day numbers
  and valid dates are in one to one correspondence, and `Calendar.dateOfDay_succ`: the next day has the
  next date.
-/

namespace ColumnBridge.Calendar

/-! ### The order of dates -/

/-- The number of days of a month. -/
def monthLength (year : ℤ) (month : ℕ) : ℕ :=
  match month with
  | 2 => if IsLeap year then 29 else 28
  | 4 | 6 | 9 | 11 => 30
  | _ => 31

namespace Date

/-- A date with a month of the year and a day of that month. -/
structure IsValid (d : Date) : Prop where
  month : 1 ≤ d.month ∧ d.month ≤ 12
  day : 1 ≤ d.day ∧ d.day ≤ monthLength d.year d.month

instance (d : Date) : Decidable d.IsValid :=
  decidable_of_iff (_ ∧ _) ⟨fun h => ⟨h.1, h.2⟩, fun h => ⟨h.month, h.day⟩⟩

/-- The date that comes next: in the same month, on the first of the next month, or on January 1. -/
def next (d : Date) : Date :=
  if d.day < monthLength d.year d.month then { d with day := d.day + 1 }
  else if d.month < 12 then ⟨d.year, d.month + 1, 1⟩
  else ⟨d.year + 1, 1, 1⟩

end Date

/-! ### Years from March -/

/-- The year, counted from March, that a date lies in. -/
def marchYear (d : Date) : ℤ := if d.month ≤ 2 then d.year - 1 else d.year

/-- The position of a date in its year from March, from 0. -/
def marchPosition (d : Date) : ℤ := daysBeforeMonth (marchIndex d) + d.day - 1

/-- The day number of March 1. -/
def marchDay (year : ℤ) : ℤ :=
  year / 400 * daysPerEra + daysBeforeYear (year % 400) - epochOffset

lemma dayNumber_eq (d : Date) : dayNumber d = marchDay (marchYear d) + marchPosition d := by
  simp only [dayNumber, marchDay, marchPosition, marchYear, marchIndex]
  ring

/-- January 1 comes 306 days after the March before it. -/
lemma newYear_eq_marchDay (year : ℤ) : newYear year = marchDay (year - 1) + 306 := by
  rw [newYear, dayNumber_eq]
  simp [marchYear, marchPosition, marchIndex, daysBeforeMonth]

/-- A year from March ends with the February of the next calendar year. -/
lemma marchDay_succ (year : ℤ) :
    marchDay (year + 1) = marchDay year + if IsLeap (year + 1) then 366 else 365 := by
  have h := newYear_succ (year + 1)
  rw [newYear_eq_marchDay, newYear_eq_marchDay, add_sub_cancel_right, add_sub_cancel_right] at h
  omega

lemma strictMono_marchDay : StrictMono marchDay := by
  refine strictMono_int_of_lt_succ fun year => ?_
  rw [marchDay_succ]
  split_ifs <;> omega

/-- The months from March on have their calendar lengths, up to January. -/
lemma daysBeforeMonth_succ {d : Date} (hmonth : 1 ≤ d.month ∧ d.month ≤ 12) (h : d.month ≠ 2) :
    daysBeforeMonth (marchIndex d + 1) = daysBeforeMonth (marchIndex d) + monthLength d.year d.month := by
  obtain ⟨year, month, day⟩ := d
  obtain ⟨hlow, hhigh⟩ := hmonth
  interval_cases month <;> first | exact absurd rfl h | simp [marchIndex, monthLength, daysBeforeMonth]

/-- February is the last month from March, and its length is what the year has left. -/
lemma position_february {d : Date} (h : d.month = 2) :
    marchIndex d = 11
      ∧ marchPosition d = (if IsLeap (marchYear d + 1) then 366 else 365)
          - (monthLength d.year d.month + 1 - d.day) := by
  obtain ⟨year, month, day⟩ := d
  obtain rfl : month = 2 := h
  simp only [marchYear, marchPosition, marchIndex, monthLength, daysBeforeMonth, le_refl, if_true,
    sub_add_cancel]
  split_ifs <;> omega

lemma Date.IsValid.index_bounds {d : Date} (h : d.IsValid) : 0 ≤ marchIndex d ∧ marchIndex d ≤ 11 := by
  obtain ⟨hlow, hhigh⟩ := h.month
  rw [marchIndex]
  split_ifs <;> omega

/-- A valid date lies in its month from March and in its year from March. -/
lemma Date.IsValid.position_bounds {d : Date} (h : d.IsValid) :
    (daysBeforeMonth (marchIndex d) ≤ marchPosition d
        ∧ marchPosition d < daysBeforeMonth (marchIndex d + 1))
      ∧ 0 ≤ marchPosition d ∧ marchPosition d < if IsLeap (marchYear d + 1) then 366 else 365 := by
  have hbounds := h.index_bounds
  obtain ⟨hmonth, hday⟩ := h
  have hposition : marchPosition d = daysBeforeMonth (marchIndex d) + d.day - 1 := rfl
  by_cases hfebruary : d.month = 2
  · obtain ⟨hindex, hrest⟩ := position_february hfebruary
    rw [hindex] at hposition ⊢
    simp only [daysBeforeMonth] at hposition ⊢
    split_ifs at hrest ⊢ <;> omega
  · have hnext := daysBeforeMonth_succ hmonth hfebruary
    have hindex : marchIndex d ≠ 11 := by
      rw [marchIndex]
      split_ifs <;> omega
    simp only [daysBeforeMonth] at hposition hnext ⊢
    split_ifs <;> omega

/-- A valid date is found by its year and position from March. -/
lemma eq_of_march {d d' : Date} (h : d.IsValid) (h' : d'.IsValid) (hyear : marchYear d = marchYear d')
    (hposition : marchPosition d = marchPosition d') : d = d' := by
  have hmonth := h.month
  have hmonth' := h'.month
  have hindex : marchIndex d = marchIndex d' := by
    have hin := h.position_bounds.1
    have hin' := h'.position_bounds.1
    simp only [daysBeforeMonth] at hin hin'
    omega
  obtain ⟨year, month, day⟩ := d
  obtain ⟨year', month', day'⟩ := d'
  have hmonths : month = month' := by
    simp only [marchIndex] at hindex hmonth hmonth'
    split_ifs at hindex <;> omega
  subst hmonths
  have hdays : day = day' := by
    simp only [marchPosition, hindex] at hposition
    omega
  have hyears : year = year' := by
    simp only [marchYear] at hyear
    split_ifs at hyear <;> omega
  rw [hdays, hyears]

/-- Different valid dates have different day numbers. -/
lemma eq_of_dayNumber_eq {d d' : Date} (h : d.IsValid) (h' : d'.IsValid)
    (hday : dayNumber d = dayNumber d') : d = d' := by
  have hin := h.position_bounds.2
  have hin' := h'.position_bounds.2
  rw [dayNumber_eq, dayNumber_eq] at hday
  have hyear : marchYear d = marchYear d' := by
    have hbefore : marchDay (marchYear d) < marchDay (marchYear d' + 1) := by
      rw [marchDay_succ]
      omega
    have hafter : marchDay (marchYear d') < marchDay (marchYear d + 1) := by
      rw [marchDay_succ]
      omega
    rw [strictMono_marchDay.lt_iff_lt] at hbefore hafter
    omega
  refine eq_of_march h h' hyear ?_
  rw [hyear] at hday
  omega

/-- The next date has the next day number. -/
theorem dayNumber_next {d : Date} (h : d.IsValid) : dayNumber d.next = dayNumber d + 1 := by
  obtain ⟨hmonth, hday⟩ := h
  have hposition : marchPosition d = daysBeforeMonth (marchIndex d) + d.day - 1 := rfl
  rw [dayNumber_eq, dayNumber_eq, Date.next]
  split_ifs with hin hlast
  · -- one day more in the same month
    have hyear : marchYear { d with day := d.day + 1 } = marchYear d := rfl
    have hnext : marchPosition { d with day := d.day + 1 }
        = daysBeforeMonth (marchIndex d) + (d.day + 1 : ℕ) - 1 := rfl
    rw [hyear, hnext, hposition]
    push_cast
    ring
  · have hfirst : marchPosition ⟨d.year, d.month + 1, 1⟩
        = daysBeforeMonth (marchIndex ⟨d.year, d.month + 1, 1⟩) := by
      rw [marchPosition]
      push_cast
      ring
    by_cases hfebruary : d.month = 2
    · -- March 1 begins a year
      obtain ⟨-, hrest⟩ := position_february hfebruary
      have hyear : marchYear ⟨d.year, d.month + 1, 1⟩ = marchYear d + 1 := by
        simp [marchYear, hfebruary]
      have hindex : marchIndex ⟨d.year, d.month + 1, 1⟩ = 0 := by
        simp [marchIndex, hfebruary]
      rw [hfirst, hindex, hyear, marchDay_succ, hrest]
      simp only [daysBeforeMonth]
      split_ifs <;> omega
    · have hyear : marchYear ⟨d.year, d.month + 1, 1⟩ = marchYear d := by
        simp only [marchYear]
        split_ifs <;> omega
      have hindex : marchIndex ⟨d.year, d.month + 1, 1⟩ = marchIndex d + 1 := by
        simp only [marchIndex]
        push_cast
        split_ifs <;> omega
      rw [hfirst, hindex, hyear, daysBeforeMonth_succ hmonth hfebruary, hposition]
      omega
  · -- January 1 follows December 31
    have hdecember : d.month = 12 := by omega
    have hyear : marchYear ⟨d.year + 1, 1, 1⟩ = marchYear d := by
      simp [marchYear, hdecember]
    have hindex : marchIndex d = 9 := by
      simp [marchIndex, hdecember]
    rw [hyear, hposition, hindex]
    rw [hdecember] at hin hday
    simp only [marchPosition, marchIndex, daysBeforeMonth, monthLength] at hin hday ⊢
    omega

/-! ### Dates of day numbers -/

/-- The date of a day lies in the year from March that the day lies in, as far into it. -/
lemma march_dateOfDay {n e c q a s : ℤ} (h : EraDay ((n + epochOffset) % daysPerEra) c q a s)
    (he : e = (n + epochOffset) / daysPerEra) :
    marchYear (dateOfDay n) = 100 * c + 4 * q + a + e * 400
      ∧ marchPosition (dateOfDay n) = s
      ∧ (1 ≤ (dateOfDay n).month ∧ (dateOfDay n).month ≤ 12)
      ∧ 1 ≤ (dateOfDay n).day ∧ marchIndex (dateOfDay n) = (5 * s + 2) / 153 := by
  have hdate := dateOfDay_eq h he
  obtain ⟨hs, hs'⟩ := h.rest
  obtain ⟨index, hindex⟩ : ∃ index, index = (5 * s + 2) / 153 := ⟨_, rfl⟩
  rw [← hindex] at hdate ⊢
  simp only [daysBeforeMonth] at hdate
  have hbounds : 0 ≤ index ∧ index ≤ 11 := by omega
  rw [hdate]
  simp only [marchYear, marchPosition, marchIndex, daysBeforeMonth]
  split_ifs <;> omega

/-- The last day of a year from March is there in leap years only. -/
lemma EraDay.isLeap {day c q a s e : ℤ} (h : EraDay day c q a s) (hs : s = 365) :
    IsLeap (100 * c + 4 * q + a + e * 400 + 1) := by
  obtain ⟨hc, hq, -, -, hleap, -⟩ := h
  obtain ⟨rfl, hcentury⟩ := hleap hs
  rw [IsLeap]
  omega

/-- Every day has a valid date. -/
theorem dateOfDay_isValid (n : ℤ) : (dateOfDay n).IsValid := by
  obtain ⟨c, q, a, s, h⟩ := exists_eraDay_of_day n
  obtain ⟨hyear, hposition, hmonth, hday, hindex⟩ := march_dateOfDay h rfl
  have hrest := h.rest
  have hsum : marchPosition (dateOfDay n)
      = daysBeforeMonth (marchIndex (dateOfDay n)) + (dateOfDay n).day - 1 := rfl
  refine ⟨hmonth, hday, ?_⟩
  by_cases hfebruary : (dateOfDay n).month = 2
  · obtain ⟨-, hlast⟩ := position_february hfebruary
    rw [hposition, hyear] at hlast
    split_ifs at hlast with hleap
    · omega
    · have hne : s ≠ 365 := fun hs => hleap (h.isLeap hs)
      omega
  · have hnext := daysBeforeMonth_succ hmonth hfebruary
    rw [hposition] at hsum
    rw [hindex] at hsum hnext
    simp only [daysBeforeMonth] at hsum hnext
    omega

/-- Every day has the day number of its date. -/
theorem dayNumber_dateOfDay (n : ℤ) : dayNumber (dateOfDay n) = n := by
  obtain ⟨c, q, a, s, h⟩ := exists_eraDay_of_day n
  obtain ⟨hyear, hposition, -⟩ := march_dateOfDay h rfl
  have hparts : 0 ≤ 100 * c + 4 * q + a ∧ 100 * c + 4 * q + a < 400 := by
    have hc := h.century
    have hq := h.fourYears
    have ha := h.year
    omega
  have hera : (100 * c + 4 * q + a + (n + epochOffset) / daysPerEra * 400) / 400
      = (n + epochOffset) / daysPerEra := by
    omega
  have hyearOfEra : (100 * c + 4 * q + a + (n + epochOffset) / daysPerEra * 400) % 400
      = 100 * c + 4 * q + a := by
    omega
  rw [dayNumber_eq, hposition, hyear, marchDay, hera, hyearOfEra, h.daysBeforeYear_eq]
  have hn := Int.ediv_mul_add_emod (n + epochOffset) daysPerEra
  omega

/-- Every valid date is the date of its day number. -/
theorem dateOfDay_dayNumber {d : Date} (h : d.IsValid) : dateOfDay (dayNumber d) = d :=
  eq_of_dayNumber_eq (dateOfDay_isValid _) h (dayNumber_dateOfDay _)

lemma one_le_monthLength (year : ℤ) (month : ℕ) : 1 ≤ monthLength year month := by
  unfold monthLength
  split
  · split_ifs <;> decide
  all_goals decide

/-- Every year has a January 1. -/
lemma isValid_firstDay (year : ℤ) : (⟨year, 1, 1⟩ : Date).IsValid :=
  ⟨⟨le_rfl, Nat.one_le_ofNat⟩, le_rfl, one_le_monthLength ..⟩

/-- The next date is valid. -/
lemma Date.IsValid.next {d : Date} (h : d.IsValid) : d.next.IsValid := by
  obtain ⟨hmonth, hday⟩ := h
  rw [Date.next]
  split_ifs with hin hlast
  · exact ⟨hmonth, Nat.succ_le_succ (Nat.zero_le _), hin⟩
  · exact ⟨⟨Nat.succ_le_succ (Nat.zero_le _), hlast⟩, le_rfl, one_le_monthLength ..⟩
  · exact isValid_firstDay _

/-- The next day has the next date. -/
theorem dateOfDay_succ (n : ℤ) : dateOfDay (n + 1) = (dateOfDay n).next := by
  have hvalid := dateOfDay_isValid n
  have hnext := dayNumber_next hvalid
  rw [dayNumber_dateOfDay] at hnext
  rw [← hnext, dateOfDay_dayNumber hvalid.next]

end ColumnBridge.Calendar
