/-!
The four widths of stored integers.

* `IntWidth.Carrier`: the machine integers of a width;
* `IntWidth.ofInt?`: narrowing that fails instead of wrapping, with `ofInt?_eq_some` and `ofInt?_eq_none`
  to say on which integers;
* `IntWidth.least`: the smallest integer of a width, which stands for nil in a column.
-/

namespace ColumnBridge

-- plain powers, also below a library with monoids
attribute [local instance (high)] instPowNat

/-- A width of stored integers. -/
inductive IntWidth
  | w8
  | w16
  | w32
  | w64
  deriving DecidableEq, Repr

namespace IntWidth

/-- The number of bits. -/
def bits : IntWidth → Nat
  | w8 => 8
  | w16 => 16
  | w32 => 32
  | w64 => 64

/-- The machine integers of a width. -/
@[reducible] def Carrier : IntWidth → Type
  | w8 => Int8
  | w16 => Int16
  | w32 => Int32
  | w64 => Int64

/-- The number that a machine integer stands for. -/
def toInt : (w : IntWidth) → w.Carrier → Int
  | w8, x => Int8.toInt x
  | w16, x => Int16.toInt x
  | w32, x => Int32.toInt x
  | w64, x => Int64.toInt x

/-- The machine integer congruent to a number modulo `2 ^ bits`. -/
def ofInt : (w : IntWidth) → Int → w.Carrier
  | w8, n => Int8.ofInt n
  | w16, n => Int16.ofInt n
  | w32, n => Int32.ofInt n
  | w64, n => Int64.ofInt n

/-- The smallest number of a width. -/
def least (w : IntWidth) : Int := -2 ^ (w.bits - 1)

/-- A number lies in the range of a width. -/
def InRange (w : IntWidth) (n : Int) : Prop := w.least ≤ n ∧ n < 2 ^ (w.bits - 1)

instance (w : IntWidth) (n : Int) : Decidable (w.InRange n) :=
  inferInstanceAs (Decidable (_ ∧ _))

/-- The machine integer for a number, if the width holds it. -/
def ofInt? (w : IntWidth) (n : Int) : Option w.Carrier :=
  if w.InRange n then some (w.ofInt n) else none

/-! ### Narrowing loses nothing -/

/-- A machine integer lies in the range of its width. -/
theorem inRange_toInt (w : IntWidth) (x : w.Carrier) : w.InRange (w.toInt x) := by
  cases w
  · exact ⟨Int8.le_toInt x, Int8.toInt_lt x⟩
  · exact ⟨Int16.le_toInt x, Int16.toInt_lt x⟩
  · exact ⟨Int32.le_toInt x, Int32.toInt_lt x⟩
  · exact ⟨Int64.le_toInt x, Int64.toInt_lt x⟩

/-- In range, narrowing keeps the number. -/
theorem toInt_ofInt (w : IntWidth) {n : Int} (h : w.InRange n) : w.toInt (w.ofInt n) = n := by
  cases w
  · exact Int8.toInt_ofInt_of_le h.1 h.2
  · exact Int16.toInt_ofInt_of_le h.1 h.2
  · exact Int32.toInt_ofInt_of_le h.1 h.2
  · exact Int64.toInt_ofInt_of_le h.1 h.2

/-- A machine integer is determined by its number. -/
theorem ofInt_toInt (w : IntWidth) (x : w.Carrier) : w.ofInt (w.toInt x) = x := by
  cases w
  · exact Int8.ofInt_toInt x
  · exact Int16.ofInt_toInt x
  · exact Int32.ofInt_toInt x
  · exact Int64.ofInt_toInt x

/-- Narrowing gives the machine integer with the same number. -/
theorem ofInt?_eq_some {w : IntWidth} {n : Int} {x : w.Carrier} :
    w.ofInt? n = some x ↔ w.toInt x = n := by
  constructor
  · intro h
    rw [ofInt?] at h
    split at h
    · next hr =>
      cases h
      exact w.toInt_ofInt hr
    · cases h
  · rintro rfl
    rw [ofInt?, if_pos (w.inRange_toInt x), ofInt_toInt]

/-- Narrowing fails exactly out of range. -/
theorem ofInt?_eq_none {w : IntWidth} {n : Int} : w.ofInt? n = none ↔ ¬ w.InRange n := by
  rw [ofInt?]
  split <;> simp [*]

end IntWidth

end ColumnBridge
