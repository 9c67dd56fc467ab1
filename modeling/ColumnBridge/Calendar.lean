/-!
The proleptic Gregorian calendar, as day numbers counted from 1970-01-01.

Years are counted from March inside the computation, so that the leap day is the last day of its year,
and in eras of 400 years, which all have the same number of days.

* `dayNumber`: the day number of a date; months and days outside a date's range are simply computed;
* `dateOfDay`: the date of a day number;
* `dayOfYear`: the year of a day number and the position of the day in it, from 1.
-/

namespace ColumnBridge.Calendar

/-- A date: year, month from 1, day from 1. -/
structure Date where
  year : Int
  month : Nat
  day : Nat
  deriving DecidableEq, Repr

/-- The days of 400 years. -/
def daysPerEra : Int := 146097

/-- The day number of 0000-03-01, negated. -/
def epochOffset : Int := 719468

/-- The number of days before the month with the given index from March. -/
def daysBeforeMonth (index : Int) : Int := (153 * index + 2) / 5

/-- The number of days before a year of an era. -/
def daysBeforeYear (year : Int) : Int := 365 * year + year / 4 - year / 100

/-- The index of the month of a date, from March. -/
def marchIndex (d : Date) : Int := if 2 < d.month then d.month - 3 else d.month + 9

/-- The day number of a date. -/
def dayNumber (d : Date) : Int :=
  let year := if d.month ≤ 2 then d.year - 1 else d.year
  let dayOfEra := daysBeforeYear (year % 400) + (daysBeforeMonth (marchIndex d) + d.day - 1)
  year / 400 * daysPerEra + dayOfEra - epochOffset

/-- The date of a day number. -/
def dateOfDay (n : Int) : Date :=
  let z := n + epochOffset
  let era := z / daysPerEra
  let dayOfEra := z % daysPerEra
  let year := (dayOfEra - dayOfEra / 1460 + dayOfEra / 36524 - dayOfEra / 146096) / 365
  let dayOfYear := dayOfEra - daysBeforeYear year
  let index := (5 * dayOfYear + 2) / 153
  let month := if index < 10 then index + 3 else index - 9
  let day := dayOfYear - daysBeforeMonth index + 1
  ⟨year + era * 400 + (if month ≤ 2 then 1 else 0), month.toNat, day.toNat⟩

/-- The year of a day number, and the position of the day in that year, from 1. -/
def dayOfYear (n : Int) : Int × Int :=
  let year := (dateOfDay n).year
  (year, n - dayNumber ⟨year, 1, 1⟩ + 1)

end ColumnBridge.Calendar
