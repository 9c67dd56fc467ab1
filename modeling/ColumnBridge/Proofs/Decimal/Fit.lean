import ColumnBridge.Decimal.Spec
import Mathlib.Tactic

/-!
Decimals of a declared precision.

* `DecimalSpec.least_lt`: the width of a precision has room for all its numbers, beside the one that stands
  for nil;
* `Decimal.fit_eq_ok_iff`, `Decimal.fit_of_scale`: which decimals fit, and that those with the scale of the
  column are not rounded;
* `Decimal.fit64`, `Decimal.fit64_eq`: the stored value as a 64-bit integer, for which there is always room.
-/

namespace ColumnBridge

/-! ### Room for a precision -/

lemma abs_lt_pow_iff {n : ℤ} {digits : ℕ} : |n| < 10 ^ digits ↔ n.natAbs < 10 ^ digits := by
  rw [Int.abs_eq_natAbs]
  exact_mod_cast Iff.rfl

/-- The width of a precision has room for all its numbers, with one to spare for nil. -/
lemma DecimalSpec.least_lt {spec : DecimalSpec} {n : ℤ} (h : n.natAbs < 10 ^ spec.precision) :
    spec.width.least < n ∧ n < 2 ^ (spec.width.bits - 1) := by
  have hmono : ∀ {k : ℕ}, spec.precision ≤ k → n.natAbs < 10 ^ k := fun hk =>
    lt_of_lt_of_le h (Nat.pow_le_pow_right (by decide) hk)
  rw [DecimalSpec.width]
  split
  · next hp =>
    have := hmono hp
    simp only [IntWidth.least, IntWidth.bits]
    omega
  · split
    · next hp =>
      have := hmono hp
      simp only [IntWidth.least, IntWidth.bits]
      omega
    · split
      · next hp =>
        have := hmono hp
        simp only [IntWidth.least, IntWidth.bits]
        omega
      · have := hmono spec.precision_le
        simp only [maxDecimalPrecision, IntWidth.least, IntWidth.bits] at *
        omega

/-- So do the 64-bit integers, whatever the precision. -/
lemma DecimalSpec.inRange64 {spec : DecimalSpec} {n : ℤ} (h : n.natAbs < 10 ^ spec.precision) :
    IntWidth.w64.InRange n := by
  have hbound : n.natAbs < 10 ^ maxDecimalPrecision :=
    lt_of_lt_of_le h (Nat.pow_le_pow_right (by decide) spec.precision_le)
  simp only [maxDecimalPrecision, IntWidth.InRange, IntWidth.least, IntWidth.bits] at *
  omega

namespace Decimal

variable {d : Decimal} {spec : DecimalSpec} {mode : RoundingMode}

/-! ### Decimals that fit -/

/-- A decimal fits exactly if it has at most the declared digits at the declared scale. -/
lemma fit_eq_ok_iff {n : ℤ} :
    d.fit spec mode = .ok n ↔ n = d.rescale spec.scale mode ∧ n.natAbs < 10 ^ spec.precision := by
  rw [Decimal.fit]
  split
  · next h =>
    constructor
    · intro hok
      cases hok
      exact ⟨rfl, h⟩
    · rintro ⟨rfl, -⟩
      rfl
  · next h =>
    constructor
    · intro hok
      cases hok
    · rintro ⟨rfl, hlt⟩
      exact absurd hlt h

/-- A decimal fits or has too many digits. -/
lemma eq_overflow_of_fit {e : MarshalError} (h : d.fit spec mode = .error e) : e = spec.overflow := by
  rw [fit] at h
  split at h
  · cases h
  · exact (Except.error.inj h).symm

/-- A decimal with the scale of the column is not rounded. -/
lemma fit_of_scale (n : ℤ) (spec : DecimalSpec) (mode : RoundingMode) :
    Decimal.fit ⟨n, spec.scale⟩ spec mode
      = if n.natAbs < 10 ^ spec.precision then .ok n else .error spec.overflow := by
  have hsame : Decimal.rescale ⟨n, spec.scale⟩ spec.scale mode = n := by
    rw [rescale_eq]
    simp
  rw [fit, hsame]

/-- A stored decimal fits again as it is, whatever the rounding. -/
lemma fit_stored {n : ℤ} (h : n.natAbs < 10 ^ spec.precision) (mode : RoundingMode) :
    Decimal.fit ⟨n, spec.scale⟩ spec mode = .ok n := by
  rw [fit_of_scale, if_pos h]

/-! ### In 64 bits -/

/-- The stored value of a host decimal as the 64-bit integer that is narrowed to the width of the
column. -/
def fit64 (d : Decimal) (spec : DecimalSpec) (mode : RoundingMode) : Except MarshalError Int64 := do
  let unscaled ← d.fit spec mode
  match IntWidth.w64.ofInt? unscaled with
  | some v => .ok v
  | none => .error spec.overflow

/-- Whatever fits is a 64-bit integer. -/
lemma fit64_eq (d : Decimal) (spec : DecimalSpec) (mode : RoundingMode) :
    d.fit64 spec mode = (d.fit spec mode).map Int64.ofInt := by
  rw [fit64]
  cases hfit : d.fit spec mode with
  | error e => rfl
  | ok n =>
    have hroom := DecimalSpec.inRange64 (fit_eq_ok_iff.mp hfit).2
    have hsome : IntWidth.w64.ofInt? n = some (Int64.ofInt n) := if_pos hroom
    simp only [bind, Except.bind, hsome, Except.map]

lemma fit64_eq_ok_iff {v : Int64} : d.fit64 spec mode = .ok v ↔ d.fit spec mode = .ok v.toInt := by
  rw [fit64_eq]
  cases hfit : d.fit spec mode with
  | error e => exact iff_of_false nofun nofun
  | ok n =>
    have hroom := DecimalSpec.inRange64 (fit_eq_ok_iff.mp hfit).2
    have hvalue : (Int64.ofInt n).toInt = n := IntWidth.toInt_ofInt .w64 hroom
    constructor
    · intro h
      rw [← Except.ok.inj h, hvalue]
    · intro h
      rw [Except.ok.inj h, Except.map, Int64.ofInt_toInt]

/-- A decimal that is a 64-bit integer at the scale of the column is stored as that integer. -/
lemma fit64_of_rescale {v : Int64} (h : d.rescale spec.scale mode = v.toInt) :
    d.fit64 spec mode = if |v.toInt| < 10 ^ spec.precision then .ok v else .error spec.overflow := by
  rw [fit64_eq, fit, h]
  simp only [abs_lt_pow_iff]
  split_ifs
  · rw [Except.map, Int64.ofInt_toInt]
  · rfl

/-- Nothing fails behind the check of the digits. -/
lemma fit64_eq_error_iff {e : MarshalError} :
    d.fit64 spec mode = .error e ↔ d.fit spec mode = .error e := by
  rw [fit64_eq]
  cases d.fit spec mode with
  | ok n => exact iff_of_false nofun nofun
  | error e' => rw [Except.map, Except.error.injEq, Except.error.injEq]

end Decimal

end ColumnBridge
