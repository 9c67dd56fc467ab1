import ColumnBridge.Decimal.Rounding
import ColumnBridge.IntWidth

/-!
The declared precision and scale of a decimal column.

* `DecimalSpec`: a precision of 1 to 18 digits of which the scale takes at most all;
* `DecimalSpec.width`: the integers that such a column stores;
* `Decimal.fit`: the stored value of a host decimal, rounded to the scale of the column.
-/

namespace ColumnBridge

-- plain powers, also below a library with monoids
attribute [local instance (high)] instPowNat

/-- The largest precision whose values fit 64 bits. -/
def maxDecimalPrecision : Nat := 18

/-- The declared precision and scale of a decimal column. -/
structure DecimalSpec where
  precision : Nat
  scale : Nat
  precision_pos : 0 < precision
  precision_le : precision ≤ maxDecimalPrecision
  scale_le : scale ≤ precision
  deriving DecidableEq, Repr

namespace DecimalSpec

/-- Check a precision and a scale. -/
def make (precision scale : Nat) : Except MarshalError DecimalSpec :=
  if h : 0 < precision ∧ precision ≤ maxDecimalPrecision ∧ scale ≤ precision then
    .ok ⟨precision, scale, h.1, h.2.1, h.2.2⟩
  else
    .error (.unknownType s!"decimal({precision},{scale})")

/-- The narrowest integers that hold every value of the precision beside a nil. -/
def width (spec : DecimalSpec) : IntWidth :=
  if spec.precision ≤ 2 then .w8
  else if spec.precision ≤ 4 then .w16
  else if spec.precision ≤ 9 then .w32
  else .w64

/-- The failure of a value with too many digits. -/
def overflow (spec : DecimalSpec) : MarshalError := .decimalOverflow spec.precision spec.scale

end DecimalSpec

/-- The unscaled value of a host decimal in a column: rounded to its scale, and refused if it then has
more digits than the precision. -/
def Decimal.fit (d : Decimal) (spec : DecimalSpec) (mode : RoundingMode) : Except MarshalError Int :=
  let unscaled := d.rescale spec.scale mode
  if unscaled.natAbs < 10 ^ spec.precision then .ok unscaled else .error spec.overflow

end ColumnBridge
