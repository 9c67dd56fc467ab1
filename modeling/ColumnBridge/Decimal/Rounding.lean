import ColumnBridge.Decimal
import ColumnBridge.Error

/-!
Rounding decimals to a scale.

* `RoundingMode`, and `RoundingMode.ofName` for the names that settings may use;
* `RoundingMode.roundDiv`: a quotient rounded to an integer, from the truncated quotient and the decision
  whether to move one step away from zero;
* `Decimal.rescale`: the unscaled value of a decimal at another scale, with `Decimal.rescale_eq`.
-/

namespace ColumnBridge

-- plain powers, also below a library with monoids
attribute [local instance (high)] instPowNat

/-- What becomes of the digits that a scale has no room for. -/
inductive RoundingMode
  /-- Away from zero. -/
  | up
  /-- Toward zero. -/
  | down
  /-- Toward positive infinity. -/
  | ceiling
  /-- Toward negative infinity. -/
  | floor
  /-- To the nearest neighbour, a tie away from zero. -/
  | halfUp
  /-- To the nearest neighbour, a tie toward zero. -/
  | halfDown
  /-- To the nearest neighbour, a tie to the even one. -/
  | halfEven
  deriving DecidableEq, Repr

namespace RoundingMode

/-- The canonical name. -/
def name : RoundingMode → String
  | up => "Up"
  | down => "Down"
  | ceiling => "Ceiling"
  | floor => "Floor"
  | halfUp => "HalfUp"
  | halfDown => "HalfDown"
  | halfEven => "HalfEven"

/-- Read a mode name; letter case, underscores and hyphens do not count. -/
def ofName (name : String) : Except MarshalError RoundingMode :=
  match String.ofList ((name.toList.filter fun c => c != '_' && c != '-').map Char.toLower) with
  | "up" => .ok up
  | "down" => .ok down
  | "ceiling" => .ok ceiling
  | "floor" => .ok floor
  | "halfup" => .ok halfUp
  | "halfdown" => .ok halfDown
  | "halfeven" => .ok halfEven
  | _ => .error (.valueConversion "rounding mode" s!"unknown rounding mode '{name}'")

/-- Whether a value of the given sign moves away from zero, when `quotient` whole steps and
`remainder` of the `divisor` parts of the next one are known. -/
def movesAway (mode : RoundingMode) (negative : Bool) (quotient remainder divisor : Nat) : Bool :=
  if remainder = 0 then false
  else
    match mode with
    | up => true
    | down => false
    | ceiling => !negative
    | floor => negative
    | halfUp => divisor ≤ 2 * remainder
    | halfDown => divisor < 2 * remainder
    | halfEven => divisor < 2 * remainder || (divisor == 2 * remainder && quotient % 2 == 1)

/-- The quotient `num / den` rounded to an integer. -/
def roundDiv (mode : RoundingMode) (num : Int) (den : Nat) : Int :=
  let quotient := num.natAbs / den
  let away := mode.movesAway (num < 0) quotient (num.natAbs % den) den
  num.sign * (if away then quotient + 1 else quotient : Nat)

@[simp] theorem roundDiv_zero (mode : RoundingMode) (den : Nat) : mode.roundDiv 0 den = 0 := by
  simp [roundDiv]

/-- Divisors above twice a number all give the same. -/
theorem roundDiv_congr (mode : RoundingMode) (num : Int) {a b : Nat} (ha : 2 * num.natAbs < a)
    (hb : 2 * num.natAbs < b) : mode.roundDiv num a = mode.roundDiv num b := by
  have hqa : num.natAbs / a = 0 := Nat.div_eq_of_lt (by omega)
  have hqb : num.natAbs / b = 0 := Nat.div_eq_of_lt (by omega)
  have hra : num.natAbs % a = num.natAbs := Nat.mod_eq_of_lt (by omega)
  have hrb : num.natAbs % b = num.natAbs := Nat.mod_eq_of_lt (by omega)
  have h1 : ∀ c, 2 * num.natAbs < c → ¬ c ≤ 2 * num.natAbs := fun c h => by omega
  have h2 : ∀ c, 2 * num.natAbs < c → ¬ c < 2 * num.natAbs := fun c h => by omega
  simp only [roundDiv, hqa, hqb, hra, hrb]
  cases mode <;> simp [movesAway, h1 a ha, h1 b hb, h2 a ha, h2 b hb]

end RoundingMode

namespace Decimal

/-- A number of digits above which more digits of a divisor make no difference to a number. -/
def decidingDigits (n : Int) : Nat := n.natAbs.log2 + 2

/-- A divisor with that many digits is above twice the number. -/
theorem lt_pow_decidingDigits (n : Int) {k : Nat} (h : decidingDigits n ≤ k) :
    2 * n.natAbs < 10 ^ k := by
  have hn : n.natAbs < 2 ^ (n.natAbs.log2 + 1) := Nat.lt_log2_self
  calc 2 * n.natAbs < 2 * 2 ^ (n.natAbs.log2 + 1) := by omega
    _ = 2 ^ decidingDigits n := by rw [decidingDigits, Nat.pow_succ 2 (_ + 1), Nat.mul_comm]
    _ ≤ 10 ^ decidingDigits n := Nat.pow_le_pow_left (by decide) _
    _ ≤ 10 ^ k := Nat.pow_le_pow_right (by decide) h

/-- The unscaled value of a decimal at another scale, rounded where that scale has fewer digits. Of a
scale that is far too fine only as many digits are looked at as can decide. -/
def rescale (d : Decimal) (scale : Int) (mode : RoundingMode) : Int :=
  if d.unscaled = 0 then 0
  else if d.scale ≤ scale then d.unscaled * 10 ^ (scale - d.scale).toNat
  else mode.roundDiv d.unscaled (10 ^ min (d.scale - scale).toNat (decidingDigits d.unscaled))

/-- The value at another scale, in terms of all its digits. -/
theorem rescale_eq (d : Decimal) (scale : Int) (mode : RoundingMode) :
    d.rescale scale mode =
      if d.scale ≤ scale then d.unscaled * 10 ^ (scale - d.scale).toNat
      else mode.roundDiv d.unscaled (10 ^ (d.scale - scale).toNat) := by
  rw [rescale]
  by_cases h0 : d.unscaled = 0
  · simp [h0]
  · rw [if_neg h0]
    split
    · rfl
    · rcases Nat.le_total (d.scale - scale).toNat (decidingDigits d.unscaled) with h | h
      · rw [Nat.min_eq_left h]
      · rw [Nat.min_eq_right h]
        exact mode.roundDiv_congr _ (lt_pow_decidingDigits _ (Nat.le_refl _))
          (lt_pow_decidingDigits _ h)

end Decimal

end ColumnBridge
