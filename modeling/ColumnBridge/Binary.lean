/-!
Stored binary floating-point numbers, by their bits.

A float column keeps bit patterns: every NaN counts as nil, and the other patterns are ordered as the
numbers they stand for, the two zeros being equal.

* `Binary.magnitude`, `Binary.isNaN`: the bits without the sign, and when they stand for no number;
* `Binary.key`: an integer that orders the numbers;
* `Binary.compare`: the order of two patterns, with a NaN equal to everything.
-/

namespace ColumnBridge

-- plain powers, also below a library with monoids
attribute [local instance (high)] instPowNat

/-- The two formats of stored floats. -/
inductive FloatFormat
  | single
  | double
  deriving DecidableEq, Repr

namespace FloatFormat

/-- The number of exponent bits. -/
def exponentBits : FloatFormat → Nat
  | single => 8
  | double => 11

/-- The number of fraction bits. -/
def fractionBits : FloatFormat → Nat
  | single => 23
  | double => 52

/-- The number of bits besides the sign. -/
def magnitudeBits (f : FloatFormat) : Nat := f.exponentBits + f.fractionBits

/-- The number of all bits. -/
def bits (f : FloatFormat) : Nat := f.magnitudeBits + 1

/-- The magnitude of an infinity: an exponent of ones and no fraction. -/
def infinity (f : FloatFormat) : Nat := (2 ^ f.exponentBits - 1) * 2 ^ f.fractionBits

end FloatFormat

/-- A bit pattern of a float format. -/
structure Binary (f : FloatFormat) where
  bits : BitVec f.bits
  deriving DecidableEq, Repr

namespace Binary

variable {f : FloatFormat}

/-- The pattern with the given bits. -/
def ofNat (f : FloatFormat) (n : Nat) : Binary f := ⟨BitVec.ofNat f.bits n⟩

/-- The quiet NaN, which a column stores for nil. -/
def nan (f : FloatFormat) : Binary f := ofNat f (f.infinity + 2 ^ (f.fractionBits - 1))

/-- The number zero. -/
def zero (f : FloatFormat) : Binary f := ofNat f 0

/-- The number one. -/
def one (f : FloatFormat) : Binary f :=
  ofNat f ((2 ^ (f.exponentBits - 1) - 1) * 2 ^ f.fractionBits)

/-- The bits without the sign. -/
def magnitude (x : Binary f) : Nat := x.bits.toNat % 2 ^ f.magnitudeBits

/-- The sign bit. -/
def isNegative (x : Binary f) : Bool := 2 ^ f.magnitudeBits ≤ x.bits.toNat

/-- A pattern that stands for no number: its magnitude is above that of an infinity. -/
def isNaN (x : Binary f) : Bool := f.infinity < x.magnitude

/-- Orders the patterns as the numbers they stand for: both zeros have the key zero. -/
def key (x : Binary f) : Int := if x.isNegative then -(x.magnitude : Int) else x.magnitude

/-- The order of two patterns; a NaN is equal to everything. -/
def compare (x y : Binary f) : Ordering :=
  if x.isNaN || y.isNaN then .eq else Ord.compare x.key y.key

end Binary

end ColumnBridge
