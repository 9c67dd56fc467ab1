import ColumnBridge.Decimal
import ColumnBridge.Error
import ColumnBridge.IntWidth

/-!
The plain text of decimals: an optional sign, digits, and a point with fraction digits.

* `Numeral`: the three parts of such a text, and `Numeral.ofChars`, which takes a text apart;
* `Numeral.parse`: the scaled integer that a text denotes, with exactly the failures of the format;
* `Decimal.render`: the canonical text of a scaled integer;
* `Decimal.ofText`: the decimal whose scale is the number of fraction digits of its text.
-/

namespace ColumnBridge

-- plain powers, also below a library with monoids
attribute [local instance (high)] instPowNat

/-- The parts of a decimal text. -/
structure Numeral where
  negative : Bool
  /-- What stands before the point. -/
  whole : List Char
  /-- What stands after the point. -/
  fraction : List Char
  deriving DecidableEq, Repr

namespace Numeral

/-- Take one sign off the front. -/
def splitSign : List Char → Bool × List Char
  | '-' :: rest => (true, rest)
  | '+' :: rest => (false, rest)
  | rest => (false, rest)

/-- Take a text apart at its sign and its first point. -/
def ofChars (cs : List Char) : Numeral :=
  let (negative, body) := splitSign cs
  ⟨negative, body.takeWhile (· != '.'), (body.dropWhile (· != '.')).drop 1⟩

/-- All digits, in the order in which they are written. -/
def digits (n : Numeral) : List Char := n.whole ++ n.fraction

/-- The digits read as one integer, with the sign. -/
def value (n : Numeral) : Int :=
  let magnitude := Nat.ofDigitChars 10 n.digits 0
  if n.negative then -magnitude else magnitude

/-- The scaled integer with `scale` fraction digits that a text denotes. Fraction digits that are not
written are zeros; more of them than the scale has are refused. -/
def parse (input : String) (scale : Nat) : Except MarshalError Int64 :=
  let n := ofChars input.toList
  let refuse (message : String) := Except.error (MarshalError.malformedDecimal input message)
  if n.digits.isEmpty then refuse "no digits"
  else if !n.digits.all Char.isDigit then refuse "unexpected character"
  else if scale < n.fraction.length then refuse s!"more than {scale} fraction digits"
  else
    match IntWidth.w64.ofInt? (n.value * 10 ^ (scale - n.fraction.length)) with
    | some v => .ok v
    | none => refuse "out of range"

end Numeral

namespace Decimal

/-- The digits of a scaled integer, with zeros in front until one stands before the point. -/
def paddedDigits (magnitude scale : Nat) : List Char :=
  let digits := Nat.toDigits 10 magnitude
  List.replicate (scale + 1 - digits.length) '0' ++ digits

/-- The canonical text of a scaled integer: a minus sign if it is negative, at least one digit, and
exactly `scale` fraction digits, without a point if there are none. -/
def render (unscaled : Int) (scale : Nat) : String :=
  let digits := paddedDigits unscaled.natAbs scale
  let (whole, fraction) := digits.splitAt (digits.length - scale)
  String.ofList
    ((if unscaled < 0 then ['-'] else []) ++ whole ++ (if scale = 0 then [] else '.' :: fraction))

/-- The decimal that a plain text denotes; its scale is the number of fraction digits. -/
def ofText (text : String) : Except MarshalError Decimal :=
  let n := Numeral.ofChars text.toList
  if n.digits.isEmpty || !n.digits.all Char.isDigit then
    .error (.valueConversion "decimal" s!"no plain decimal: {text}")
  else .ok ⟨n.value, n.fraction.length⟩

/-- The host decimal of a stored scaled integer, read from its canonical text. -/
def ofStored (unscaled : Int) (scale : Nat) : Except MarshalError Decimal :=
  ofText (render unscaled scale)

end Decimal

end ColumnBridge
