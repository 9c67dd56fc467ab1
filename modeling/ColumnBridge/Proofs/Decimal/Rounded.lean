import ColumnBridge.Proofs.Stored.Canonical

/-!
Rounding, measured against the exact numbers.

* `RoundingMode.Rounds`: what it means that a rational number is rounded to an integer, mode by mode;
* `RoundingMode.rounds_div_iff`: a quotient is rounded by the truncated quotient and one decision about the
  remainder, and to one integer only;
* `Decimal.rounds_iff_eq_rescale`: so a decimal of any scale is brought to the scale of a column;
* `Decimal.fit64_rounds`: what a column of decimals stores, and that no conversion on the way to a slot
  fails.
-/

namespace ColumnBridge

namespace RoundingMode

/-- A number is rounded to an integer: in a direction that the mode fixes, or to a nearest integer, where
of two equally near ones the mode chooses. -/
def Rounds : RoundingMode → ℚ → ℤ → Prop
  | up, x, v => v = if 0 ≤ x then ⌈x⌉ else ⌊x⌋
  | down, x, v => v = if 0 ≤ x then ⌊x⌋ else ⌈x⌉
  | ceiling, x, v => v = ⌈x⌉
  | floor, x, v => v = ⌊x⌋
  | halfUp, x, v => |x - v| ≤ 1 / 2 ∧ (|x - v| = 1 / 2 → |x| < |(v : ℚ)|)
  | halfDown, x, v => |x - v| ≤ 1 / 2 ∧ (|x - v| = 1 / 2 → |(v : ℚ)| < |x|)
  | halfEven, x, v => |x - v| ≤ 1 / 2 ∧ (|x - v| = 1 / 2 → Even v)

/-! ### A quotient and a remainder -/

section Parts

variable {q r den : ℕ}

/-- The remainder is a part of one step. -/
lemma part_bounds (hr : r < den) : 0 ≤ (r / den : ℚ) ∧ (r / den : ℚ) < 1 := by
  have hden : (0 : ℚ) < den := by exact_mod_cast Nat.zero_lt_of_lt hr
  refine ⟨by positivity, ?_⟩
  rw [div_lt_one hden]
  exact_mod_cast hr

lemma part_le_half (hr : r < den) : (r / den : ℚ) ≤ 1 / 2 ↔ 2 * r ≤ den := by
  have hden : (0 : ℚ) < den := by exact_mod_cast Nat.zero_lt_of_lt hr
  rw [div_le_div_iff₀ hden two_pos, one_mul, mul_comm]
  exact_mod_cast Iff.rfl

lemma half_le_part (hr : r < den) : 1 / 2 ≤ (r / den : ℚ) ↔ den ≤ 2 * r := by
  have hden : (0 : ℚ) < den := by exact_mod_cast Nat.zero_lt_of_lt hr
  rw [div_le_div_iff₀ two_pos hden, one_mul, mul_comm]
  exact_mod_cast Iff.rfl

lemma floor_parts (hr : r < den) : ⌊(q + r / den : ℚ)⌋ = q := by
  obtain ⟨hnonneg, hlt⟩ := part_bounds hr
  rw [Int.floor_eq_iff]
  push_cast
  constructor <;> linarith

lemma ceil_parts (hr : r < den) : ⌈(q + r / den : ℚ)⌉ = if r = 0 then (q : ℤ) else q + 1 := by
  obtain ⟨-, hlt⟩ := part_bounds hr
  have hden : (0 : ℚ) < den := by exact_mod_cast Nat.zero_lt_of_lt hr
  split_ifs with hzero
  · rw [hzero, Nat.cast_zero, zero_div, add_zero, Int.ceil_natCast]
  · have hpos : 0 < (r / den : ℚ) := div_pos (by exact_mod_cast Nat.pos_of_ne_zero hzero) hden
    rw [Int.ceil_eq_iff]
    push_cast
    constructor <;> linarith

/-- The nearest integers are the quotient, up to half a step, and the next one from there on. Which of
the two counts in the middle is for `choice` to say. -/
lemma nearest_iff (hr : r < den) (choice : ℤ → Prop) {v : ℤ} :
    (|(q + r / den : ℚ) - v| ≤ 1 / 2 ∧ (|(q + r / den : ℚ) - v| = 1 / 2 → choice v))
      ↔ v = q ∧ 2 * r ≤ den ∧ (2 * r = den → choice q)
        ∨ v = q + 1 ∧ den ≤ 2 * r ∧ (2 * r = den → choice (q + 1)) := by
  obtain ⟨hnonneg, hlt⟩ := part_bounds hr
  have hbelow : |(q + r / den : ℚ) - (q : ℤ)| = r / den := by
    rw [Int.cast_natCast, add_sub_cancel_left, abs_of_nonneg hnonneg]
  have habove : |(q + r / den : ℚ) - (q + 1 : ℤ)| = 1 - r / den := by
    push_cast
    rw [abs_sub_comm, abs_of_nonneg (by linarith)]
    ring
  have hmiddle : (r / den : ℚ) = 1 / 2 ↔ 2 * r = den := by
    rw [le_antisymm_iff, part_le_half hr, half_le_part hr]
    omega
  have hmiddle' : (1 - r / den : ℚ) = 1 / 2 ↔ 2 * r = den := by
    rw [← hmiddle]
    constructor <;> intro h <;> linarith
  have hle : (1 - r / den : ℚ) ≤ 1 / 2 ↔ den ≤ 2 * r := by
    rw [← half_le_part hr]
    constructor <;> intro h <;> linarith
  constructor
  · rintro ⟨hnear, htie⟩
    have hv : v = q ∨ v = q + 1 := by
      obtain ⟨hlow, hhigh⟩ := abs_le.mp hnear
      have hfrom : (q : ℚ) - 1 < v := by linarith
      have hto : (v : ℚ) < q + 2 := by linarith
      have hfrom' : (q : ℤ) - 1 < v := by exact_mod_cast hfrom
      have hto' : v < (q : ℤ) + 2 := by exact_mod_cast hto
      omega
    rcases hv with rfl | rfl
    · rw [hbelow] at hnear htie
      exact .inl ⟨rfl, (part_le_half hr).mp hnear, fun h => htie (hmiddle.mpr h)⟩
    · rw [habove] at hnear htie
      exact .inr ⟨rfl, hle.mp hnear, fun h => htie (hmiddle'.mpr h)⟩
  · rintro (⟨rfl, hnear, htie⟩ | ⟨rfl, hnear, htie⟩)
    · rw [hbelow]
      exact ⟨(part_le_half hr).mpr hnear, fun h => htie (hmiddle.mp h)⟩
    · rw [habove]
      exact ⟨hle.mpr hnear, fun h => htie (hmiddle'.mp h)⟩

/-! ### The decision about a remainder -/

lemma movesAway_halfUp_iff {negative : Bool} (hr : r < den) :
    halfUp.movesAway negative q r den = true ↔ den ≤ 2 * r := by
  by_cases hzero : r = 0
  · exact iff_of_false (by simp [movesAway, hzero]) (by omega)
  · simp only [movesAway, hzero, if_false, decide_eq_true_eq]

lemma movesAway_halfDown_iff {negative : Bool} :
    halfDown.movesAway negative q r den = true ↔ den < 2 * r := by
  by_cases hzero : r = 0
  · simp [movesAway, hzero]
  · simp only [movesAway, hzero, if_false, decide_eq_true_eq]

lemma movesAway_halfEven_iff {negative : Bool} (hr : r < den) :
    halfEven.movesAway negative q r den = true ↔ den < 2 * r ∨ den = 2 * r ∧ q % 2 = 1 := by
  by_cases hzero : r = 0
  · exact iff_of_false (by simp [movesAway, hzero]) (by omega)
  · simp [movesAway, hzero]

/-- A number that is not negative is rounded to its quotient or, where the mode moves away from zero, to
the next integer. -/
lemma rounds_parts_iff (mode : RoundingMode) (hr : r < den) {v : ℤ} :
    mode.Rounds (q + r / den) v ↔ v = (if mode.movesAway false q r den then q + 1 else q : ℕ) := by
  obtain ⟨hpart, hpart'⟩ := part_bounds hr
  have hnonneg : 0 ≤ (q + r / den : ℚ) := by positivity
  have hsize : |(q + r / den : ℚ)| = q + r / den := abs_of_nonneg hnonneg
  have hquotient : |((q : ℤ) : ℚ)| = q := by rw [Int.cast_natCast, Nat.abs_cast]
  have hnext : |((q + 1 : ℤ) : ℚ)| = q + 1 := by
    push_cast
    exact abs_of_nonneg (by positivity)
  cases mode with
  | up | ceiling =>
    simp only [Rounds, if_pos hnonneg, ceil_parts hr, movesAway]
    split_ifs <;> simp_all
  | down | floor =>
    simp only [Rounds, if_pos hnonneg, floor_parts hr, movesAway]
    simp
  | halfUp =>
    have hbelow : ¬ (q + r / den : ℚ) < q := not_lt.mpr (by linarith)
    have habove : (q + r / den : ℚ) < q + 1 := by linarith
    refine (nearest_iff hr fun v => |(q + r / den : ℚ)| < |(v : ℚ)|).trans ?_
    simp only [hsize, hquotient, hnext, hbelow, habove, imp_false, implies_true, and_true]
    split_ifs with hmoves <;> rw [movesAway_halfUp_iff hr] at hmoves <;> omega
  | halfDown =>
    have hbelow : (2 * r = den → (q : ℚ) < q + r / den) ↔ True := by
      refine iff_true_intro fun heq => ?_
      have hhalf := (half_le_part hr).mpr heq.ge
      linarith
    have habove : ¬ (q + 1 : ℚ) < q + r / den := not_lt.mpr (by linarith)
    refine (nearest_iff hr fun v => |(v : ℚ)| < |(q + r / den : ℚ)|).trans ?_
    simp only [hsize, hquotient, hnext, hbelow, habove, imp_false, and_true]
    split_ifs with hmoves <;> rw [movesAway_halfDown_iff] at hmoves <;> omega
  | halfEven =>
    refine (nearest_iff hr Even).trans ?_
    simp only [Int.even_add_one, Int.even_coe_nat, Nat.even_iff]
    split_ifs with hmoves <;> rw [movesAway_halfEven_iff hr] at hmoves <;> omega

end Parts

/-! ### Any quotient -/

/-- The mode that does to negative numbers what a mode does to positive ones. -/
def opposite : RoundingMode → RoundingMode
  | ceiling => floor
  | floor => ceiling
  | mode => mode

/-- Rounding a negated number in the opposite mode. -/
lemma rounds_neg_iff (mode : RoundingMode) (x : ℚ) (v : ℤ) :
    mode.Rounds (-x) v ↔ mode.opposite.Rounds x (-v) := by
  have hfar : |-x - v| = |x - (-v : ℤ)| := by
    rw [← abs_neg]
    push_cast
    ring_nf
  have hsize : |((-v : ℤ) : ℚ)| = |(v : ℚ)| := by rw [Int.cast_neg, abs_neg]
  cases mode with
  | up | down =>
    rcases lt_trichotomy x 0 with hx | rfl | hx
    · simp [opposite, Rounds, hx.le, hx.not_ge, Int.floor_neg, Int.ceil_neg, neg_eq_iff_eq_neg]
    · simp [opposite, Rounds]
    · simp [opposite, Rounds, hx.le, hx.not_ge, Int.floor_neg, Int.ceil_neg, neg_eq_iff_eq_neg]
  | ceiling => simp [opposite, Rounds, Int.ceil_neg, neg_eq_iff_eq_neg]
  | floor => simp [opposite, Rounds, Int.floor_neg, neg_eq_iff_eq_neg]
  | halfUp | halfDown => simp only [opposite, Rounds, hfar, hsize, abs_neg]
  | halfEven => simp only [opposite, Rounds, hfar, even_neg]

lemma movesAway_opposite (mode : RoundingMode) (q r den : ℕ) :
    mode.movesAway true q r den = mode.opposite.movesAway false q r den := by
  cases mode <;> rfl

lemma roundDiv_natCast (mode : RoundingMode) (a den : ℕ) :
    mode.roundDiv a den
      = (if mode.movesAway false (a / den) (a % den) den then a / den + 1 else a / den : ℕ) := by
  rcases Nat.eq_zero_or_pos a with rfl | ha
  · simp [movesAway]
  · have hsign : Int.sign a = 1 := Int.sign_eq_one_of_pos (by exact_mod_cast ha)
    have hneg : decide ((a : ℤ) < 0) = false := decide_eq_false (by omega)
    rw [roundDiv, hsign, Int.natAbs_natCast, hneg, one_mul]

lemma roundDiv_neg_natCast (mode : RoundingMode) (a den : ℕ) :
    mode.roundDiv (-a) den = -mode.opposite.roundDiv a den := by
  rcases Nat.eq_zero_or_pos a with rfl | ha
  · simp
  · have hsign : Int.sign (-a) = -1 := by
      rw [Int.sign_neg, Int.sign_eq_one_of_pos (by exact_mod_cast ha)]
    have hneg : decide (-(a : ℤ) < 0) = true := decide_eq_true (by omega)
    rw [roundDiv_natCast, roundDiv, hsign, Int.natAbs_neg, Int.natAbs_natCast, hneg,
      movesAway_opposite, neg_one_mul]

/-- **Rounding a quotient.**  A quotient is rounded to one integer, which its whole steps and the decision
about the rest give. -/
theorem rounds_div_iff (mode : RoundingMode) (num : ℤ) {den : ℕ} (hden : 0 < den) {v : ℤ} :
    mode.Rounds (num / den) v ↔ v = mode.roundDiv num den := by
  have hparts : ∀ a : ℕ, (a / den : ℚ) = (a / den : ℕ) + (a % den : ℕ) / den := by
    intro a
    have hsum : (a : ℚ) = den * (a / den : ℕ) + (a % den : ℕ) := by
      exact_mod_cast (Nat.div_add_mod a den).symm
    have hne : (den : ℚ) ≠ 0 := by exact_mod_cast hden.ne'
    rw [← mul_div_cancel_left₀ ((a / den : ℕ) : ℚ) hne, ← add_div, ← hsum]
  obtain ⟨a, rfl | rfl⟩ := num.eq_nat_or_neg
  · rw [Int.cast_natCast, hparts, rounds_parts_iff _ (Nat.mod_lt a hden), roundDiv_natCast]
  · rw [Int.cast_neg, Int.cast_natCast, neg_div, rounds_neg_iff, hparts,
      rounds_parts_iff _ (Nat.mod_lt a hden), roundDiv_neg_natCast, roundDiv_natCast, neg_eq_iff_eq_neg]

/-- An integer is rounded to itself. -/
lemma roundDiv_one (mode : RoundingMode) (num : ℤ) : mode.roundDiv num 1 = num := by
  simp [roundDiv, movesAway, Nat.mod_one, Int.sign_mul_abs]

end RoundingMode

namespace Decimal

variable {d : Decimal} {spec : DecimalSpec} {mode : RoundingMode}

/-- The number that a decimal stands for. -/
def toRat (d : Decimal) : ℚ := d.unscaled * 10 ^ (-d.scale)

/-- **Rounding a decimal.**  In units of the last place of a scale, finer or coarser than its own, a decimal
is rounded to its unscaled value at that scale. -/
theorem rounds_iff_eq_rescale (d : Decimal) (scale : ℤ) (mode : RoundingMode) {v : ℤ} :
    mode.Rounds (d.toRat * 10 ^ scale) v ↔ v = d.rescale scale mode := by
  have hunits : d.toRat * 10 ^ scale = d.unscaled * 10 ^ (scale - d.scale) := by
    rw [toRat, mul_assoc, ← zpow_add₀ (by norm_num), neg_add_eq_sub]
  rw [hunits, rescale_eq]
  split_ifs with hle
  · have hwhole : (d.unscaled * 10 ^ (scale - d.scale) : ℚ)
        = (d.unscaled * 10 ^ (scale - d.scale).toNat : ℤ) / (1 : ℕ) := by
      obtain ⟨k, hk⟩ := Int.eq_ofNat_of_zero_le (sub_nonneg.mpr hle)
      rw [hk]
      simp
    rw [hwhole, mode.rounds_div_iff _ one_pos, mode.roundDiv_one]
  · have hpart : (d.unscaled * 10 ^ (scale - d.scale) : ℚ)
        = d.unscaled / (10 ^ (d.scale - scale).toNat : ℕ) := by
      obtain ⟨k, hk⟩ := Int.eq_ofNat_of_zero_le (show 0 ≤ d.scale - scale by omega)
      rw [← neg_sub d.scale, zpow_neg, hk, ← div_eq_mul_inv]
      simp
    rw [hpart, mode.rounds_div_iff _ (by positivity)]

/-- What fits is the rounded decimal, if it has no more than the declared digits. -/
lemma fit64_eq_ok_iff_rounds {v : Int64} :
    d.fit64 spec mode = .ok v
      ↔ mode.Rounds (d.toRat * 10 ^ spec.scale) v.toInt ∧ |v.toInt| < 10 ^ spec.precision := by
  rw [fit64_eq_ok_iff, fit_eq_ok_iff, abs_lt_pow_iff, ← rounds_iff_eq_rescale, zpow_natCast]

/-- A rounded decimal with no more than the declared digits fits, since 64 bits have room for it. -/
lemma exists_fit64_iff :
    (∃ v, d.fit64 spec mode = .ok v)
      ↔ ∃ n : ℤ, mode.Rounds (d.toRat * 10 ^ spec.scale) n ∧ |n| < 10 ^ spec.precision := by
  constructor
  · rintro ⟨v, hv⟩
    exact ⟨v.toInt, fit64_eq_ok_iff_rounds.mp hv⟩
  · rintro ⟨n, hrounds, hdigits⟩
    have hvalue : (Int64.ofInt n).toInt = n :=
      IntWidth.toInt_ofInt .w64 (DecimalSpec.inRange64 (abs_lt_pow_iff.mp hdigits))
    refine ⟨Int64.ofInt n, fit64_eq_ok_iff_rounds.mpr ?_⟩
    rw [hvalue]
    exact ⟨hrounds, hdigits⟩

/-- What fits is stored in a slot of the width of the column, and is not the slot that stands for nil. -/
lemma exists_slot_of_fit64 (options : MarshalOptions) {v : Int64}
    (h : d.fit64 spec options.rounding = .ok v) :
    ∃ slot : spec.width.Carrier, spec.width.ofInt? v.toInt = some slot
      ∧ spec.width.toInt slot = v.toInt ∧ (LogicalType.decimal spec).isNilCell slot = false
      ∧ (LogicalType.decimal spec).encodeValue options (.decimal d) = .ok slot := by
  have hfit := fit64_eq_ok_iff.mp h
  have hdigits := (fit_eq_ok_iff.mp hfit).2
  obtain ⟨hlow, hhigh⟩ := DecimalSpec.least_lt hdigits
  have hslot : spec.width.toInt (spec.width.ofInt v.toInt) = v.toInt :=
    spec.width.toInt_ofInt ⟨hlow.le, hhigh⟩
  refine ⟨spec.width.ofInt v.toInt, IntWidth.ofInt?_eq_some.mpr hslot, hslot, ?_, ?_⟩
  · refine LogicalType.isNilCell_decimal ?_
    rw [hslot]
    exact hdigits
  · rw [LogicalType.encodeValue_decimal_eq_ok_iff, hslot]
    exact hfit

/-- **Storing decimals.**  A decimal of any size and scale is stored exactly if, rounded to the scale of
the column in the given mode, it has no more than the declared digits; what is stored is the rounded number,
and anything else is an overflow.  No conversion behind the check of the digits fails: the number is a
64-bit integer, it is an integer of the width of the column, and it is not the nil of that width. -/
theorem fit64_rounds (d : Decimal) (spec : DecimalSpec) (mode : RoundingMode)
    (options : MarshalOptions) :
    (∀ v : Int64, d.fit64 spec mode = .ok v
        ↔ mode.Rounds (d.toRat * 10 ^ spec.scale) v.toInt ∧ |v.toInt| < 10 ^ spec.precision)
      ∧ ((¬ ∃ n : ℤ, mode.Rounds (d.toRat * 10 ^ spec.scale) n ∧ |n| < 10 ^ spec.precision)
          ↔ d.fit64 spec mode = .error (.decimalOverflow spec.precision spec.scale))
      ∧ d.fit spec mode = (d.fit64 spec mode).map Int64.toInt
      ∧ (∀ v : Int64, d.fit64 spec mode = .ok v →
          ∃ slot : spec.width.Carrier, spec.width.ofInt? v.toInt = some slot
            ∧ spec.width.toInt slot = v.toInt ∧ (LogicalType.decimal spec).isNilCell slot = false
            ∧ (LogicalType.decimal spec).encodeValue { options with rounding := mode } (.decimal d)
              = .ok slot)
      ∧ ∀ e, d.fit64 spec mode = .error e →
          (LogicalType.decimal spec).encodeValue { options with rounding := mode } (.decimal d)
            = .error e := by
  refine ⟨fun v => fit64_eq_ok_iff_rounds, ?_, ?_, ?_, ?_⟩
  · rw [← exists_fit64_iff]
    cases h : d.fit64 spec mode with
    | ok v => exact iff_of_false (fun hnone => hnone ⟨v, rfl⟩) nofun
    | error e => exact iff_of_true nofun (congrArg _ (eq_overflow_of_fit (fit64_eq_error_iff.mp h)))
  · cases h : d.fit64 spec mode with
    | ok v => exact fit64_eq_ok_iff.mp h
    | error e => exact fit64_eq_error_iff.mp h
  · intro v h
    exact exists_slot_of_fit64 { options with rounding := mode } h
  · intro e h
    rw [LogicalType.encodeValue, fit64_eq_error_iff.mp h]
    rfl

/-- A carry makes one more digit of 9.995 at two places, for which a precision of four has room, and a
precision of three has not. -/
theorem fit64_rounds_carry :
    RoundingMode.halfUp.Rounds (Decimal.toRat ⟨9995, 3⟩ * 10 ^ 2) 1000
      ∧ (LogicalType.decimal ⟨4, 2, by decide, by decide, by decide⟩).encodeValue .utc
          (.decimal ⟨9995, 3⟩) = .ok (1000 : Int16)
      ∧ (LogicalType.decimal ⟨3, 2, by decide, by decide, by decide⟩).encodeValue .utc
          (.decimal ⟨9995, 3⟩) = .error (.decimalOverflow 3 2) := by
  obtain ⟨hrounds, -, -, hslot, -⟩ :=
    fit64_rounds ⟨9995, 3⟩ ⟨4, 2, by decide, by decide, by decide⟩ .halfUp .utc
  obtain ⟨-, -, -, -, hoverflow⟩ :=
    fit64_rounds ⟨9995, 3⟩ ⟨3, 2, by decide, by decide, by decide⟩ .halfUp .utc
  obtain ⟨slot, hsome, -, -, hstored⟩ := hslot 1000 (by rfl)
  have hthousand : slot = (1000 : Int16) := (Option.some.inj hsome).symm
  subst hthousand
  exact ⟨((hrounds 1000).mp (by rfl)).1, hstored, hoverflow (.decimalOverflow 3 2) (by decide)⟩

end Decimal

end ColumnBridge
