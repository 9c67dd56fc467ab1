import ColumnBridge.HostClock
import Mathlib.Tactic

/-!
The codecs of the host clock over unbounded integers.

The stored integers are machine integers, and every store checks that its result is one.  What a store
computes is said here in exact numbers, once for each codec:

* `exactTimeMs`, `exactTimestampMs`, `exactMicros`: the numbers that a fetch and a store stand for;
* `msToDate_eq_ok_iff`, `msToTime_eq_ok_iff`, `msToTimestamp_eq_ok_iff`: when a store succeeds, and with
  which number;
* `toInt_ne_least_of_msToTime`, `toInt_ne_least_of_msToTimestamp`: no store gives the number that stands
  for nil.
-/

namespace ColumnBridge.HostClock

/-! ### Exact numbers -/

/-- The host milliseconds of a stored time of day, whether or not they are a machine integer. -/
def exactTimeMs (micros bias : ℤ) : ℤ := micros.tdiv 1000 - bias

/-- The host milliseconds of a stored timestamp, whether or not they are a machine integer. -/
def exactTimestampMs (micros bias : ℤ) : ℤ :=
  dayToMs (micros / usPerDay) + micros % usPerDay / 1000 - bias

/-- The midnight in microseconds at which the day of a host millisecond begins. -/
def midnightOfMs (ms : ℤ) : ℤ := dayOfMs ms * usPerDay

/-- The microseconds of a host millisecond: the midnight of its day, and the time of day. -/
def exactMicros (ms : ℤ) : ℤ := midnightOfMs ms + ms % msPerYear % msPerDay * 1000

/-- A machine integer of a number in range stands for that number. -/
lemma toInt_ofInt64 {n : ℤ} (h : IntWidth.w64.InRange n) : (Int64.ofInt n).toInt = n :=
  IntWidth.toInt_ofInt .w64 h

/-! ### What a store keeps -/

/-- A date is stored exactly if its day number is a 32-bit integer. -/
lemma msToDate_eq_ok_iff {ms : Int64} {day : Int32} :
    msToDate ms = .ok day ↔ day.toInt = dayOfMs ms.toInt := by
  have hiff : IntWidth.w32.ofInt? (dayOfMs ms.toInt) = some day ↔ day.toInt = dayOfMs ms.toInt :=
    IntWidth.ofInt?_eq_some
  unfold msToDate
  rw [← hiff]
  cases IntWidth.w32.ofInt? (dayOfMs ms.toInt) with
  | none => simp
  | some d => simp

/-- Milliseconds lie in one day exactly if their microseconds do. -/
lemma micros_inDay_iff {ms : ℤ} :
    (0 ≤ ms * 1000 ∧ ms * 1000 < usPerDay) ↔ (0 ≤ ms ∧ ms < msPerDay) := by
  simp only [usPerDay, msPerDay]
  omega

/-- A time is stored exactly if the shifted milliseconds lie in one day. -/
lemma msToTime_eq_ok_iff {ms bias micros : Int64} :
    msToTime ms bias = .ok micros ↔
      (0 ≤ ms.toInt + bias.toInt ∧ ms.toInt + bias.toInt < msPerDay)
        ∧ micros.toInt = (ms.toInt + bias.toInt) * 1000 := by
  simp only [msToTime, micros_inDay_iff]
  split
  · next h =>
    have hrange : IntWidth.w64.InRange ((ms.toInt + bias.toInt) * 1000) := by
      simp only [msPerDay] at h
      simp only [IntWidth.InRange, IntWidth.least, IntWidth.bits]
      omega
    have hval := toInt_ofInt64 hrange
    constructor
    · intro hok
      cases hok
      exact ⟨h, hval⟩
    · rintro ⟨-, hm⟩
      rw [← Int64.toInt_inj.mp (hval.trans hm.symm)]
  · next h =>
    constructor
    · intro hok
      cases hok
    · rintro ⟨hin, -⟩
      exact absurd hin h

/-- A timestamp is stored exactly if the shifted milliseconds, the midnight of their day and their
microseconds are 64-bit integers. -/
lemma msToTimestamp_eq_ok_iff {ms bias micros : Int64} :
    msToTimestamp ms bias = .ok micros ↔
      (IntWidth.w64.InRange (ms.toInt + bias.toInt)
        ∧ IntWidth.w64.InRange (midnightOfMs (ms.toInt + bias.toInt)))
        ∧ micros.toInt = exactMicros (ms.toInt + bias.toInt) := by
  have hcond : msToTimestamp ms bias
      = if IntWidth.w64.InRange (ms.toInt + bias.toInt)
            ∧ IntWidth.w64.InRange (midnightOfMs (ms.toInt + bias.toInt))
            ∧ IntWidth.w64.InRange (exactMicros (ms.toInt + bias.toInt)) then
          .ok (Int64.ofInt (exactMicros (ms.toInt + bias.toInt)))
        else .error (.valueConversion "timestamp" "out of range") := rfl
  rw [hcond]
  constructor
  · intro h
    split at h
    · next hr =>
      cases h
      exact ⟨⟨hr.1, hr.2.1⟩, toInt_ofInt64 hr.2.2⟩
    · cases h
  · rintro ⟨⟨hshift, hmid⟩, hm⟩
    have hrange : IntWidth.w64.InRange (exactMicros (ms.toInt + bias.toInt)) := by
      rw [← hm]
      exact IntWidth.inRange_toInt .w64 micros
    rw [if_pos ⟨hshift, hmid, hrange⟩, ← hm, Int64.ofInt_toInt]

/-! ### No store gives nil -/

/-- A stored time of day is not negative. -/
lemma toInt_ne_least_of_msToTime {ms bias micros : Int64} (h : msToTime ms bias = .ok micros) :
    micros.toInt ≠ IntWidth.w64.least := by
  obtain ⟨⟨hlow, -⟩, hm⟩ := msToTime_eq_ok_iff.mp h
  simp only [IntWidth.least, IntWidth.bits]
  omega

/-- A stored timestamp is a whole number of milliseconds, which the smallest machine integer is not. -/
lemma toInt_ne_least_of_msToTimestamp {ms bias micros : Int64}
    (h : msToTimestamp ms bias = .ok micros) : micros.toInt ≠ IntWidth.w64.least := by
  obtain ⟨-, hm⟩ := msToTimestamp_eq_ok_iff.mp h
  rw [hm, exactMicros, midnightOfMs]
  simp only [usPerDay, IntWidth.least, IntWidth.bits]
  omega

end ColumnBridge.HostClock
