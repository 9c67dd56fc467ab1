import ColumnBridge.Binary
import Mathlib.Data.EReal.Operations
import Mathlib.Tactic

/-!
The order of stored floats.

* `Binary.number`: the number that a pattern stands for, read off its sign, its exponent and its
  fraction; an infinity stands for an end of the extended reals;
* `FloatFormat.strictMono_finiteNumber`: among finite patterns without a sign a larger magnitude stands
  for a larger number, across the border of the subnormal ones too;
* `Binary.key_le_key_iff`: the integer keys order the patterns as their numbers, so that the two zeros
  are equal; a NaN has no place in this order.
-/

namespace ColumnBridge

namespace FloatFormat

/-- What is added to an exponent before it is stored. -/
def bias (f : FloatFormat) : ℕ := 2 ^ (f.exponentBits - 1) - 1

/-- The number of a finite magnitude: the fraction follows a hidden one unless the exponent field is
zero, and then the exponent is that of the field one. -/
noncomputable def finiteNumber (f : FloatFormat) (m : ℕ) : ℝ :=
  if m / 2 ^ f.fractionBits = 0 then
    ((m % 2 ^ f.fractionBits : ℕ) : ℝ) * 2 ^ (1 - (f.bias : ℤ) - f.fractionBits)
  else
    ((2 ^ f.fractionBits + m % 2 ^ f.fractionBits : ℕ) : ℝ)
      * 2 ^ (((m / 2 ^ f.fractionBits : ℕ) : ℤ) - f.bias - f.fractionBits)

/-- A finite magnitude as a multiple of the smallest positive number. -/
def units (f : FloatFormat) (m : ℕ) : ℕ :=
  if m / 2 ^ f.fractionBits = 0 then m % 2 ^ f.fractionBits
  else (2 ^ f.fractionBits + m % 2 ^ f.fractionBits) * 2 ^ (m / 2 ^ f.fractionBits - 1)

lemma finiteNumber_eq_units (f : FloatFormat) (m : ℕ) :
    f.finiteNumber m = f.units m * (2 : ℝ) ^ (1 - (f.bias : ℤ) - f.fractionBits) := by
  rw [finiteNumber, units]
  split_ifs with h
  · rfl
  · have hexp : ((m / 2 ^ f.fractionBits : ℕ) : ℤ) - f.bias - f.fractionBits
        = ((m / 2 ^ f.fractionBits - 1 : ℕ) : ℤ) + (1 - (f.bias : ℤ) - f.fractionBits) := by
      have hpos : 1 ≤ m / 2 ^ f.fractionBits := Nat.one_le_iff_ne_zero.mpr h
      rw [Nat.cast_sub hpos]
      ring
    rw [hexp, zpow_add₀ two_ne_zero, zpow_natCast, Nat.cast_mul, Nat.cast_pow, Nat.cast_ofNat,
      mul_assoc]

/-- The next magnitude has more units: the fraction grows, or it starts again under the next
exponent. -/
lemma units_lt_succ (f : FloatFormat) (m : ℕ) : f.units m < f.units (m + 1) := by
  rw [units, units]
  set p : ℕ := 2 ^ f.fractionBits with hp
  have hp0 : 0 < p := Nat.two_pow_pos _
  have hm : p * (m / p) + m % p = m := Nat.div_add_mod m p
  have hr : m % p < p := Nat.mod_lt m hp0
  rcases Nat.lt_or_ge (m % p + 1) p with hlt | hge
  · have hdiv : (m + 1) / p = m / p := by
      rw [← hm, add_assoc, Nat.mul_add_div hp0, Nat.div_eq_of_lt hlt,
        Nat.mul_add_div hp0, Nat.div_eq_of_lt hr]
    have hmod : (m + 1) % p = m % p + 1 := by
      rw [← hm, add_assoc, Nat.mul_add_mod, Nat.mod_eq_of_lt hlt, Nat.mul_add_mod,
        Nat.mod_eq_of_lt hr]
    rw [hdiv, hmod]
    split_ifs with h0
    · omega
    · exact Nat.mul_lt_mul_of_pos_right (by omega) (Nat.two_pow_pos _)
  · have hnext : m + 1 = p * (m / p + 1) := by
      rw [Nat.mul_add, Nat.mul_one]
      omega
    have hdiv : (m + 1) / p = m / p + 1 := by
      rw [hnext, Nat.mul_div_cancel_left _ hp0]
    have hmod : (m + 1) % p = 0 := by
      rw [hnext, Nat.mul_mod_right]
    rw [hdiv, hmod, if_neg (Nat.succ_ne_zero _), Nat.add_zero, Nat.add_sub_cancel]
    split_ifs with h0
    · rw [h0, pow_zero, Nat.mul_one]
      exact hr
    · calc (p + m % p) * 2 ^ (m / p - 1)
          < (p * 2) * 2 ^ (m / p - 1) :=
            Nat.mul_lt_mul_of_pos_right (by omega) (Nat.two_pow_pos _)
        _ = p * 2 ^ (m / p - 1 + 1) := by rw [Nat.mul_assoc, ← pow_succ']
        _ = p * 2 ^ (m / p) := by rw [Nat.sub_add_cancel (Nat.one_le_iff_ne_zero.mpr h0)]

/-- Among finite patterns without a sign a larger magnitude stands for a larger number. -/
theorem strictMono_finiteNumber (f : FloatFormat) : StrictMono f.finiteNumber := by
  intro m n hmn
  rw [finiteNumber_eq_units, finiteNumber_eq_units]
  have hunits : f.units m < f.units n := strictMono_nat_of_lt_succ f.units_lt_succ hmn
  exact mul_lt_mul_of_pos_right (Nat.cast_lt.mpr hunits) (zpow_pos two_pos _)

lemma finiteNumber_zero (f : FloatFormat) : f.finiteNumber 0 = 0 := by
  simp [finiteNumber]

/-- The number of a magnitude; that of an infinity is the upper end. -/
noncomputable def absolute (f : FloatFormat) (m : ℕ) : EReal :=
  if m < f.infinity then (f.finiteNumber m : ℝ) else ⊤

/-- No two magnitudes up to infinity stand for one number, and they are in the same order. -/
lemma strictMonoOn_absolute (f : FloatFormat) : StrictMonoOn f.absolute (Set.Iic f.infinity) := by
  intro m _ n hn hmn
  have hm : m < f.infinity := lt_of_lt_of_le hmn hn
  rw [absolute, if_pos hm, absolute]
  split_ifs
  · exact EReal.coe_lt_coe_iff.mpr (f.strictMono_finiteNumber hmn)
  · exact EReal.coe_lt_top _

lemma absolute_zero (f : FloatFormat) : f.absolute 0 = 0 := by
  have h : 0 < f.infinity := by
    cases f <;> decide
  rw [absolute, if_pos h, finiteNumber_zero, EReal.coe_zero]

/-- The order of two numbers without a sign is that of their magnitudes. -/
lemma absolute_le_absolute_iff {f : FloatFormat} {m n : ℕ} (hm : m ≤ f.infinity)
    (hn : n ≤ f.infinity) : f.absolute m ≤ f.absolute n ↔ m ≤ n :=
  f.strictMonoOn_absolute.le_iff_le hm hn

lemma absolute_nonneg {f : FloatFormat} {m : ℕ} (hm : m ≤ f.infinity) : 0 ≤ f.absolute m := by
  rw [← f.absolute_zero]
  exact (absolute_le_absolute_iff (Nat.zero_le _) hm).mpr (Nat.zero_le _)

lemma absolute_nonpos_iff {f : FloatFormat} {m : ℕ} (hm : m ≤ f.infinity) :
    f.absolute m ≤ 0 ↔ m = 0 := by
  rw [← f.absolute_zero, absolute_le_absolute_iff hm (Nat.zero_le _), Nat.le_zero]

end FloatFormat

namespace Binary

variable {f : FloatFormat}

/-- The number that a pattern stands for. Of a NaN nothing is meant by it. -/
noncomputable def number (x : Binary f) : EReal :=
  if x.isNegative then -f.absolute x.magnitude else f.absolute x.magnitude

/-- The magnitude of a pattern that is no NaN is at most that of an infinity. -/
lemma magnitude_le_of_isNaN {x : Binary f} (hx : x.isNaN = false) : x.magnitude ≤ f.infinity :=
  Nat.le_of_not_lt (of_decide_eq_false hx)

/-- **The keys order the patterns as the numbers that they stand for.** -/
theorem key_le_key_iff {x y : Binary f} (hx : x.isNaN = false) (hy : y.isNaN = false) :
    x.key ≤ y.key ↔ x.number ≤ y.number := by
  have hxm := magnitude_le_of_isNaN hx
  have hym := magnitude_le_of_isNaN hy
  have hx0 : 0 ≤ f.absolute x.magnitude := FloatFormat.absolute_nonneg hxm
  have hy0 : 0 ≤ f.absolute y.magnitude := FloatFormat.absolute_nonneg hym
  rw [key, key, number, number]
  split_ifs with h1 h2 h2
  · -- both below zero: the larger magnitude comes first
    rw [EReal.neg_le_neg_iff, FloatFormat.absolute_le_absolute_iff hym hxm]
    omega
  · refine iff_of_true (by omega) ?_
    exact (EReal.neg_le_zero.mpr hx0).trans hy0
  · -- the second is below zero: they are in order only if both are zeros
    constructor
    · intro h
      have hzx : x.magnitude = 0 := by omega
      have hzy : y.magnitude = 0 := by omega
      rw [hzx, hzy, f.absolute_zero, neg_zero]
    · intro h
      have hyn : f.absolute y.magnitude ≤ 0 := EReal.neg_nonneg.mp (hx0.trans h)
      have hxn : f.absolute x.magnitude ≤ 0 :=
        h.trans (EReal.neg_le_zero.mpr hy0)
      have hzx := (FloatFormat.absolute_nonpos_iff hxm).mp hxn
      have hzy := (FloatFormat.absolute_nonpos_iff hym).mp hyn
      omega
  · rw [FloatFormat.absolute_le_absolute_iff hxm hym]
    omega

/-- The two zeros are no different in order. -/
example : Binary.key (⟨0x80000000#32⟩ : Binary .single) = (Binary.zero .single).key := by decide

end Binary

end ColumnBridge
