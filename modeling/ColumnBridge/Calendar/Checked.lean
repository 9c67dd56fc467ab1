import ColumnBridge.Calendar
import ColumnBridge.IntWidth

/-!
The calendar in 64-bit arithmetic.

The routines are computed step by step, in arithmetic whose division truncates and in which every result has
to be a 64-bit integer.

* `checked`: the result of a step, none if it overflows;
* `dayNumber?`, `dateOfDay?`, `dayOfYear?`: the routines, none if a step overflows.
-/

namespace ColumnBridge.Calendar

/-- The result of a step, if it is a 64-bit integer. -/
def checked (n : Int) : Option Int := if IntWidth.w64.InRange n then some n else none

/-- The quotient rounded down, by a division that truncates: a negative number is lowered first. -/
def floorDiv? (n d : Int) : Option Int := do
  let lowered ← if 0 ≤ n then some n else checked (n - (d - 1))
  return lowered.tdiv d

/-- The year of an era that a day of it lies in. -/
def yearOfEra? (day : Int) : Option Int := do
  let n ← checked (day - day.tdiv 1460)
  let n ← checked (n + day.tdiv 36524)
  let n ← checked (n - day.tdiv 146096)
  return n.tdiv 365

/-- The days before a year of an era. -/
def daysBeforeYear? (year : Int) : Option Int := do
  let n ← checked (365 * year)
  let n ← checked (n + year.tdiv 4)
  checked (n - year.tdiv 100)

/-- The days before a month, by its index from March. -/
def daysBeforeMonth? (index : Int) : Option Int := do
  let n ← checked (153 * index)
  let n ← checked (n + 2)
  return n.tdiv 5

/-- The year, counted from March, that a date lies in. -/
def marchYear? (d : Date) : Option Int := if d.month ≤ 2 then checked (d.year - 1) else some d.year

/-- The position of a date in that year, from 0. -/
def marchPosition? (d : Date) : Option Int := do
  let beforeMonth ← daysBeforeMonth? (marchIndex d)
  let n ← checked (beforeMonth + d.day)
  checked (n - 1)

/-- The day number of a date. -/
def dayNumber? (d : Date) : Option Int := do
  let year ← marchYear? d
  let era ← floorDiv? year 400
  let firstYear ← checked (era * 400)
  let yearOfEra ← checked (year - firstYear)
  let position ← marchPosition? d
  let beforeYear ← daysBeforeYear? yearOfEra
  let dayOfEra ← checked (beforeYear + position)
  let firstDay ← checked (era * daysPerEra)
  let n ← checked (firstDay + dayOfEra)
  checked (n - epochOffset)

/-- The date of a day number. -/
def dateOfDay? (n : Int) : Option Date := do
  let z ← checked (n + epochOffset)
  let era ← floorDiv? z daysPerEra
  let firstDay ← checked (era * daysPerEra)
  let dayOfEra ← checked (z - firstDay)
  let yearOfEra ← yearOfEra? dayOfEra
  let beforeYear ← daysBeforeYear? yearOfEra
  let position ← checked (dayOfEra - beforeYear)
  let fives ← checked (5 * position)
  let fives ← checked (fives + 2)
  let index := fives.tdiv 153
  let beforeMonth ← daysBeforeMonth? index
  let day ← checked (position - beforeMonth)
  let day ← checked (day + 1)
  let month := if index < 10 then index + 3 else index - 9
  let firstYear ← checked (era * 400)
  let year ← checked (yearOfEra + firstYear)
  let year ← checked (year + if month ≤ 2 then 1 else 0)
  return ⟨year, month.toNat, day.toNat⟩

/-- The year of a day number, and the position of the day in it, from 1. -/
def dayOfYear? (n : Int) : Option (Int × Int) := do
  let d ← dateOfDay? n
  let first ← dayNumber? ⟨d.year, 1, 1⟩
  let position ← checked (n - first)
  let position ← checked (position + 1)
  return (d.year, position)

end ColumnBridge.Calendar
