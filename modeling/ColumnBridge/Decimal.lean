/-!
Decimals of any precision, as an object host holds them: the value `unscaled * 10 ^ (-scale)`, where
equal values of different scales are different decimals.
-/

namespace ColumnBridge

/-- The decimal `unscaled * 10 ^ (-scale)`. -/
structure Decimal where
  unscaled : Int
  /-- The number of fraction digits; a negative scale counts zeros before the point. -/
  scale : Int
  deriving DecidableEq, Repr

end ColumnBridge
