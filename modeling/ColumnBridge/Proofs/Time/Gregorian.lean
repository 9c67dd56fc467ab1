import ColumnBridge.Calendar
import Mathlib.Tactic

/-!
The years of the calendar.

* `Calendar.IsLeap`, `Calendar.newYear`, `Calendar.newYear_succ`: from one first day of a year to the next
  there are 366 days if the year is a leap year, and else 365;
* `Calendar.exists_eraDay`: a day of an era by century, four years, year and day, all counted from March;
* `Calendar.newYear_le`, `Calendar.lt_newYear_succ`: the year of a date is the one that its day number
  falls into, and `Calendar.year_eq_of_newYear`: there is no other;
* `Calendar.isNewYearsEve_iff`: the last day of that year is its December 31.
-/

namespace ColumnBridge.Calendar

/-! ### The first days of years -/

/-- A year with a leap day. -/
def IsLeap (year : ℤ) : Prop := year % 4 = 0 ∧ (year % 100 ≠ 0 ∨ year % 400 = 0)

instance (year : ℤ) : Decidable (IsLeap year) := inferInstanceAs (Decidable (_ ∧ _))

/-- The first day of a year. -/
def newYear (year : ℤ) : ℤ := dayNumber ⟨year, 1, 1⟩

example : newYear 1970 = 0 := by decide

/-- The first days of years without eras. -/
lemma newYear_eq (year : ℤ) :
    newYear year = 365 * (year - 1) + (year - 1) / 4 - (year - 1) / 100 + (year - 1) / 400 - 719162 := by
  have h4 : (year - 1) / 4 = 100 * ((year - 1) / 400) + (year - 1) % 400 / 4 := by omega
  have h100 : (year - 1) / 100 = 4 * ((year - 1) / 400) + (year - 1) % 400 / 100 := by omega
  have h400 := Int.mul_ediv_add_emod (year - 1) 400
  have hday : newYear year = (year - 1) / 400 * 146097
      + (365 * ((year - 1) % 400) + (year - 1) % 400 / 4 - (year - 1) % 400 / 100 + 306)
      - 719468 := by
    simp [newYear, dayNumber, marchIndex, daysBeforeYear, daysBeforeMonth, daysPerEra, epochOffset]
  omega

/-- **The length of years.**  The leap years are those that 4 divides, but of those that 100 divides
only the ones that 400 divides. -/
theorem newYear_succ (year : ℤ) :
    newYear (year + 1) = newYear year + if IsLeap year then 366 else 365 := by
  rw [newYear_eq, newYear_eq, add_sub_cancel_right]
  simp only [IsLeap]
  split_ifs <;> omega

/-- The first day of the year after some centuries, four years and years of an era. -/
lemma newYear_of_parts {e c q a : ℤ} (hc : 0 ≤ c ∧ c ≤ 3) (hq : 0 ≤ q ∧ q ≤ 24) (ha : 0 ≤ a ∧ a ≤ 3) :
    newYear (400 * e + (100 * c + 4 * q + a) + 1)
      = 146097 * e + 36524 * c + 1461 * q + 365 * a - 719162 := by
  have h4 : (400 * e + (100 * c + 4 * q + a)) / 4 = 100 * e + 25 * c + q := by omega
  have h100 : (400 * e + (100 * c + 4 * q + a)) / 100 = 4 * e + c := by omega
  have h400 : (400 * e + (100 * c + 4 * q + a)) / 400 = e := by omega
  rw [newYear_eq, add_sub_cancel_right, h4, h100, h400]
  omega

/-! ### The days of an era -/

/-- The number of the year, from March, in which a day of an era falls. -/
def yearOfEra (day : ℤ) : ℤ := (day - day / 1460 + day / 36524 - day / 146096) / 365

/-- A day of an era: `c` centuries, `q` times four years, `a` years and `s` days. The last day of four
years is a leap day, except at the end of a century that is not the last. -/
structure EraDay (day c q a s : ℤ) : Prop where
  century : 0 ≤ c ∧ c ≤ 3
  fourYears : 0 ≤ q ∧ q ≤ 24
  year : 0 ≤ a ∧ a ≤ 3
  rest : 0 ≤ s ∧ s ≤ 365
  leap : s = 365 → a = 3 ∧ (q < 24 ∨ c = 3)
  day_eq : day = 36524 * c + 1461 * q + 365 * a + s

lemma exists_eraDay {day : ℤ} (h0 : 0 ≤ day) (h1 : day < 146097) : ∃ c q a s, EraDay day c q a s := by
  obtain ⟨c, hc, hcday⟩ : ∃ c : ℤ, (0 ≤ c ∧ c ≤ 3) ∧ 36524 * c ≤ day
      ∧ (day < 36524 * c + 36524 ∨ c = 3) := by
    rcases Int.lt_or_le (day / 36524) 3 with h | h
    · exact ⟨day / 36524, by omega, by omega, by omega⟩
    · exact ⟨3, by omega, by omega, .inr rfl⟩
  obtain ⟨q, hq⟩ : ∃ q : ℤ, q = (day - 36524 * c) / 1461 := ⟨_, rfl⟩
  obtain ⟨a, ha, haday⟩ : ∃ a : ℤ, (0 ≤ a ∧ a ≤ 3) ∧ 365 * a ≤ day - 36524 * c - 1461 * q
      ∧ (day - 36524 * c - 1461 * q < 365 * a + 365 ∨ a = 3) := by
    rcases Int.lt_or_le ((day - 36524 * c - 1461 * q) / 365) 3 with h | h
    · exact ⟨(day - 36524 * c - 1461 * q) / 365, by omega, by omega, by omega⟩
    · exact ⟨3, by omega, by omega, .inr rfl⟩
  refine ⟨c, q, a, day - 36524 * c - 1461 * q - 365 * a, hc, ?_, ha, ?_, ?_, ?_⟩ <;> omega

/-- Every day lies somewhere in its era. -/
lemma exists_eraDay_of_day (n : ℤ) :
    ∃ c q a s, EraDay ((n + epochOffset) % daysPerEra) c q a s :=
  exists_eraDay (Int.emod_nonneg _ (by decide)) (Int.emod_lt_of_pos _ (by decide))

/-- The year of an era is the one that the parts give. -/
lemma EraDay.yearOfEra_eq {day c q a s : ℤ} (h : EraDay day c q a s) :
    yearOfEra day = 100 * c + 4 * q + a := by
  obtain ⟨hc, hq, ha, hs, hleap, rfl⟩ := h
  have hcentury : (36524 * c + 1461 * q + 365 * a + s) / 36524
      - (36524 * c + 1461 * q + 365 * a + s) / 146096 = c := by
    -- only the very last day of an era is counted in a century too many
    have hlast : 1461 * q + 365 * a + s < 36524 ∨ (c = 3 ∧ 1461 * q + 365 * a + s = 36524) := by
      omega
    rcases hlast with hlt | ⟨rfl, heq⟩
    · have hdiv : (36524 * c + 1461 * q + 365 * a + s) / 36524 = c := by omega
      have hdiv' : (36524 * c + 1461 * q + 365 * a + s) / 146096 = 0 := by omega
      rw [hdiv, hdiv', sub_zero]
    · omega
  have hfour : (36524 * c + 1461 * q + 365 * a + s) / 1460
      = 25 * c + q + (24 * c + q + 365 * a + s) / 1460 := by
    omega
  rw [yearOfEra]
  omega

lemma EraDay.daysBeforeYear_eq {day c q a s : ℤ} (h : EraDay day c q a s) :
    daysBeforeYear (100 * c + 4 * q + a) = day - s := by
  obtain ⟨hc, hq, ha, hs, hleap, rfl⟩ := h
  have h4 : (100 * c + 4 * q + a) / 4 = 25 * c + q := by omega
  have h100 : (100 * c + 4 * q + a) / 100 = c := by omega
  rw [daysBeforeYear, h4, h100]
  omega

/-! ### The year of a date -/

/-- A date by its day in the year from March. -/
lemma dateOfDay_eq {n e c q a s : ℤ} (h : EraDay ((n + epochOffset) % daysPerEra) c q a s)
    (he : e = (n + epochOffset) / daysPerEra) :
    dateOfDay n =
      let index := (5 * s + 2) / 153
      let month := if index < 10 then index + 3 else index - 9
      ⟨100 * c + 4 * q + a + e * 400 + (if month ≤ 2 then 1 else 0), month.toNat,
        (s - daysBeforeMonth index + 1).toNat⟩ := by
  have hyear := h.yearOfEra_eq
  have hrest : (n + epochOffset) % daysPerEra - daysBeforeYear (100 * c + 4 * q + a) = s := by
    rw [h.daysBeforeYear_eq]
    omega
  rw [yearOfEra] at hyear
  simp only [dateOfDay, hyear, hrest, he]

/-- A day of the last two months of a year from March belongs to the next calendar year, whose first day
is `306` days after the first of March; every other day belongs to the year that ends then. -/
lemma year_cases (n : ℤ) :
    (∃ s, 306 ≤ s ∧ s ≤ 365 ∧ n = newYear (dateOfDay n).year + (s - 306) ∧ (dateOfDay n).month ≤ 2)
      ∨ ∃ s, 0 ≤ s ∧ s < 306 ∧ n + (306 - s) = newYear ((dateOfDay n).year + 1)
          ∧ ((dateOfDay n).month = 12 ∧ (dateOfDay n).day = 31 ↔ s = 305) := by
  have hn := Int.mul_ediv_add_emod (n + epochOffset) daysPerEra
  obtain ⟨c, q, a, s, h⟩ := exists_eraDay_of_day n
  obtain ⟨e, he⟩ : ∃ e, e = (n + epochOffset) / daysPerEra := ⟨_, rfl⟩
  have hdate := dateOfDay_eq h he
  have hfirst := @newYear_of_parts e c q a h.century h.fourYears h.year
  obtain ⟨-, -, -, ⟨hs0, hs1⟩, -, hday⟩ := h
  rw [← he, hday] at hn
  simp only [daysPerEra, epochOffset] at hn
  rcases Int.lt_or_le s 306 with hs | hs
  · right
    have hindex : (5 * s + 2) / 153 < 10 := by omega
    have hmonth : ¬ (5 * s + 2) / 153 + 3 ≤ 2 := by omega
    simp only [hindex, hmonth, if_true, if_false] at hdate
    refine ⟨s, hs0, hs, ?_, ?_⟩
    · have hyear : (dateOfDay n).year + 1 = 400 * e + (100 * c + 4 * q + a) + 1 := by
        rw [hdate]
        ring
      rw [hyear, hfirst]
      omega
    · rw [hdate]
      simp only [daysBeforeMonth]
      omega
  · left
    have hindex : ¬ (5 * s + 2) / 153 < 10 := by omega
    have hmonth : (5 * s + 2) / 153 - 9 ≤ 2 := by omega
    simp only [hindex, hmonth, if_true, if_false] at hdate
    refine ⟨s, hs, hs1, ?_, ?_⟩
    · have hyear : (dateOfDay n).year = 400 * e + (100 * c + 4 * q + a) + 1 := by
        rw [hdate]
        ring
      rw [hyear, hfirst]
      omega
    · rw [hdate]
      show ((5 * s + 2) / 153 - 9).toNat ≤ 2
      omega

/-- The year of a date begins on the day or before it. -/
theorem newYear_le (n : ℤ) : newYear (dateOfDay n).year ≤ n := by
  rcases year_cases n with ⟨s, hs, -, hn, -⟩ | ⟨s, hs, -, hn, -⟩
  · omega
  · rw [newYear_succ] at hn
    split_ifs at hn <;> omega

/-- The year after it begins later. -/
theorem lt_newYear_succ (n : ℤ) : n < newYear ((dateOfDay n).year + 1) := by
  rcases year_cases n with ⟨s, -, hs, hn, -⟩ | ⟨s, -, hs, hn, -⟩
  · rw [newYear_succ]
    split_ifs <;> omega
  · omega

/-- Years begin one after the other. -/
lemma strictMono_newYear : StrictMono newYear := by
  refine strictMono_int_of_lt_succ fun year => ?_
  rw [newYear_succ]
  split_ifs <;> omega

/-- A day lies in one year only. -/
theorem year_eq_of_newYear {n year : ℤ} (hlow : newYear year ≤ n) (hhigh : n < newYear (year + 1)) :
    (dateOfDay n).year = year := by
  have hbefore : newYear (dateOfDay n).year < newYear (year + 1) := (newYear_le n).trans_lt hhigh
  have hafter : newYear year < newYear ((dateOfDay n).year + 1) := hlow.trans_lt (lt_newYear_succ n)
  rw [strictMono_newYear.lt_iff_lt] at hbefore hafter
  omega

/-- The last day of a year is its December 31. -/
theorem isNewYearsEve_iff (n : ℤ) :
    ((dateOfDay n).month = 12 ∧ (dateOfDay n).day = 31)
      ↔ n + 1 = newYear ((dateOfDay n).year + 1) := by
  rcases year_cases n with ⟨s, -, hs, hn, hmonth⟩ | ⟨s, -, -, hn, hdate⟩
  · refine iff_of_false (fun h => by omega) fun h => ?_
    rw [newYear_succ] at h
    split_ifs at h <;> omega
  · rw [hdate, ← hn]
    omega

/-! ### The last day of a leap year -/

/-- A day is December 31 of a leap year. -/
def EndsLeapYear (n : ℤ) : Prop :=
  (dateOfDay n).month = 12 ∧ (dateOfDay n).day = 31 ∧ IsLeap (dateOfDay n).year

instance (n : ℤ) : Decidable (EndsLeapYear n) := inferInstanceAs (Decidable (_ ∧ _ ∧ _))

/-- The position of a day in its year, from 0. -/
def position (n : ℤ) : ℤ := n - newYear (dateOfDay n).year

lemma dayOfYear_eq (n : ℤ) : dayOfYear n = ((dateOfDay n).year, position n + 1) := rfl

lemma position_nonneg (n : ℤ) : 0 ≤ position n := Int.sub_nonneg.mpr (newYear_le n)

lemma position_le (n : ℤ) : position n ≤ 365 := by
  have hlt := lt_newYear_succ n
  rw [newYear_succ] at hlt
  rw [position]
  split_ifs at hlt <;> omega

/-- Only the last day of a leap year has 365 days of its year before it. -/
lemma position_eq_iff (n : ℤ) : position n = 365 ↔ EndsLeapYear n := by
  have hlt := lt_newYear_succ n
  rw [EndsLeapYear, ← and_assoc, isNewYearsEve_iff, position, newYear_succ] at *
  split_ifs at * with hleap
  · simp only [hleap, and_true]
    omega
  · simp only [hleap, and_false, iff_false]
    omega

/-- The day after it is the first day of the next year. -/
lemma EndsLeapYear.succ_eq {n : ℤ} (h : EndsLeapYear n) : n + 1 = newYear ((dateOfDay n).year + 1) :=
  (isNewYearsEve_iff n).mp ⟨h.1, h.2.1⟩

end ColumnBridge.Calendar
