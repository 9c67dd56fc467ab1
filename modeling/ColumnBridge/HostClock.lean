import ColumnBridge.Calendar.Checked
import ColumnBridge.Error

/-!
Stored dates and times as milliseconds of the host clock.

The host counts milliseconds from 1970 in years of 365.25 days: a day is placed by its calendar year and
its position in that year. Times and timestamps are shifted by a bias, which a fetch subtracts and a
store adds.

* `dateToMs`, `timeToMs`, `timestampToMs`: what a fetch gives. Nothing overflows on the way to a date; a time
  or timestamp is computed by `timeToMs?`, `timestampToMs?` in steps that may overflow;
* `msToDate`, `msToTime`, `msToTimestamp`: what a store keeps, with a failure wherever the stored
  integers have no room.
-/

namespace ColumnBridge.HostClock

/-- Milliseconds of one day. -/
def msPerDay : Int := 86400000

/-- Milliseconds of one host year of 365.25 days. -/
def msPerYear : Int := 31557600000

/-- Microseconds of one day. -/
def usPerDay : Int := 86400000000

/-- The year in which the host clock starts. -/
def epochYear : Int := 1970

/-- The usual bias: one hour. -/
def defaultBias : Int64 := 3600000

/-! ### Placing days -/

/-- The host milliseconds at which a day begins. -/
def dayToMs (day : Int) : Int :=
  let (year, position) := Calendar.dayOfYear day
  (position - 1) * msPerDay + (year - epochYear) * msPerYear

/-- The day that a host millisecond falls on: host years are matched with calendar years, and the whole
days into the host year are counted from January 1st. -/
def dayOfMs (ms : Int) : Int :=
  Calendar.dayNumber ⟨epochYear + ms / msPerYear, 1, 1⟩ + ms % msPerYear / msPerDay

/-! ### Dates -/

/-- Host milliseconds of a stored date. -/
def dateToMs (day : Int32) : Int64 := Int64.ofInt (dayToMs day.toInt)

/-- Stored date of host milliseconds. -/
def msToDate (ms : Int64) : Except MarshalError Int32 :=
  match IntWidth.w32.ofInt? (dayOfMs ms.toInt) with
  | some day => .ok day
  | none => .error (.valueConversion "date" "out of range")

/-! ### Times of day -/

/-- The steps to the host milliseconds of a stored time of day, none if one overflows. -/
def timeToMs? (micros bias : Int) : Option Int := Calendar.checked (micros.tdiv 1000 - bias)

/-- Host milliseconds of a stored time of day, none if a step overflows. -/
def timeToMs (micros bias : Int64) : Option Int64 :=
  (timeToMs? micros.toInt bias.toInt).map Int64.ofInt

/-- Stored time of day of host milliseconds. -/
def msToTime (ms bias : Int64) : Except MarshalError Int64 :=
  let micros := (ms.toInt + bias.toInt) * 1000
  if 0 ≤ micros ∧ micros < usPerDay then .ok (Int64.ofInt micros)
  else .error (.valueConversion "time" s!"{ms} ms is not a time of day")

/-! ### Timestamps -/

/-- The steps to the host milliseconds of a stored timestamp, none if one overflows. -/
def timestampToMs? (micros bias : Int) : Option Int := do
  let (year, place) ← Calendar.dayOfYear? (micros / usPerDay)
  let days ← Calendar.checked (place - 1)
  let intoYear ← Calendar.checked (days * msPerDay)
  let years ← Calendar.checked (year - epochYear)
  let beforeYear ← Calendar.checked (years * msPerYear)
  let midnight ← Calendar.checked (intoYear + beforeYear)
  let unbiased ← Calendar.checked (midnight + (micros % usPerDay).tdiv 1000)
  Calendar.checked (unbiased - bias)

/-- Host milliseconds of a stored timestamp, none if a step overflows. -/
def timestampToMs (micros bias : Int64) : Option Int64 :=
  (timestampToMs? micros.toInt bias.toInt).map Int64.ofInt

/-- Stored timestamp of host milliseconds. Each of the shifted milliseconds, the midnight of the day and
the timestamp itself has to be a 64-bit integer. -/
def msToTimestamp (ms bias : Int64) : Except MarshalError Int64 :=
  let shifted := ms.toInt + bias.toInt
  let midnight := dayOfMs shifted * usPerDay
  let micros := midnight + shifted % msPerYear % msPerDay * 1000
  if IntWidth.w64.InRange shifted ∧ IntWidth.w64.InRange midnight ∧ IntWidth.w64.InRange micros then
    .ok (Int64.ofInt micros)
  else .error (.valueConversion "timestamp" "out of range")

end ColumnBridge.HostClock
