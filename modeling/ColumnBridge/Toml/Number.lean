import ColumnBridge.Decimal
import ColumnBridge.Toml.Quoted
import ColumnBridge.Toml.Value

/-!
Numbers of TOML documents.

Whether a word counts as a number and whether it has a value are two questions. A word without a value is
unreadable: a number that is too large, the prefix of a radix alone, or `1_a`, which counts as an integer
because of its underscore.

* `underscoresFit`: underscores stand between digits, or between the sign and a digit;
* `readInteger`, `readFloat`: the value of a word that counts as an integer or as a float.
-/

namespace ColumnBridge.Toml

-- plain powers, also below a library with monoids
attribute [local instance (high)] instPowNat

/-! ### Signs, underscores and digits -/

/-- Take one sign off the front: whether there was one, whether it was a minus, and the rest. -/
def takeSign : List Char → Bool × Bool × List Char
  | '-' :: rest => (true, true, rest)
  | '+' :: rest => (true, false, rest)
  | rest => (false, false, rest)

/-- Each underscore stands between two digits. `mayCome` says whether the text may begin with one all the
same. -/
def underscoresFit (isDigit : Char → Bool) (mayCome : Bool) : List Char → Bool
  | [] => true
  | ['_'] => false
  | '_' :: c :: rest => mayCome && isDigit c && underscoresFit isDigit true rest
  | c :: rest => underscoresFit isDigit (isDigit c) rest

/-- A text without its underscores. -/
def withoutUnderscores (cs : List Char) : List Char := cs.filter (· != '_')

/-- A text begins with a zero that other digits follow. -/
def leadsWithZero : List Char → Bool
  | '0' :: c :: _ => c.isDigit || c == '_'
  | _ => false

/-- A character that no integer has. -/
def isFloatMark (c : Char) : Bool := c == '.' || c == 'e' || c == 'E'

/-- A digit of a radix of at most sixteen. -/
def isRadixDigit (radix : Nat) (c : Char) : Bool := (hexDigit c).any (· < radix)

/-- The number that digits of a radix denote. -/
def radixValue (radix : Nat) (digits : List Char) : Nat :=
  digits.foldl (fun n c => radix * n + (hexDigit c).getD 0) 0

/-- The number that a text denotes, none if the text is empty or holds anything but digits. -/
def radixValue? (radix : Nat) (cs : List Char) : Option Nat :=
  if !cs.isEmpty && cs.all (isRadixDigit radix) then some (radixValue radix cs) else none

/-! ### Integers -/

/-- A text that counts as an integer as a value. Those of 128 bits, with or without a sign, can be
read. -/
def integerValue (radix : Nat) (negative : Bool) (cs : List Char) : TomlValue :=
  match radixValue? radix (withoutUnderscores cs) with
  | none => .unreadable
  | some magnitude =>
    let n : Int := if negative then -magnitude else magnitude
    if -2 ^ (127 : Nat) ≤ n ∧ n < 2 ^ (128 : Nat) then .integer n else .unreadable

/-- An integer after the prefix of its radix. -/
def readRadixInteger (radix : Nat) (cs : List Char) : Option TomlValue :=
  if cs.all (fun c => isRadixDigit radix c || c == '_')
      && underscoresFit (isRadixDigit radix) false cs then
    some (integerValue radix false cs)
  else none

/-- Whether a text after its sign counts as a decimal integer. The first character that is no digit
decides, and letters up to `f` may stand next to underscores. -/
def countsAsInteger (signed : Bool) (cs : List Char) : Bool :=
  !cs.isEmpty && (cs.dropWhile Char.isDigit).head?.all (· == '_') && !cs.any isFloatMark
    && !leadsWithZero cs && underscoresFit (isRadixDigit 16) signed cs

/-- An integer. Only decimal ones may have a sign. -/
def readInteger : List Char → Option TomlValue
  | '0' :: 'x' :: cs => readRadixInteger 16 cs
  | '0' :: 'o' :: cs => readRadixInteger 8 cs
  | '0' :: 'b' :: cs => readRadixInteger 2 cs
  | word =>
    let (signed, negative, cs) := takeSign word
    if countsAsInteger signed cs then some (integerValue 10 negative cs) else none

/-! ### Floats -/

/-- The smallest magnitude that no finite float of 64 bits is nearest to. -/
def floatBound : Nat := 2 ^ (1024 : Nat) - 2 ^ (970 : Nat)

/-- Whether a decimal is too large for a float. Far from the bound the number of digits decides. -/
def isTooLarge (d : Decimal) : Bool :=
  let magnitude := d.unscaled.natAbs
  let order : Int := (Nat.toDigits 10 magnitude).length - d.scale
  if magnitude = 0 || order < 300 then false
  else if 310 < order then true
  else floatBound * 10 ^ d.scale.toNat ≤ magnitude * 10 ^ (-d.scale).toNat

/-- The exponent of a float, after its letter. -/
def readExponent (cs : List Char) : Option Int :=
  let (_, negative, digits) := takeSign cs
  (radixValue? 10 digits).map fun n => if negative then -n else n

/-- The mantissa of a float as a decimal, with or without fraction digits. -/
def readMantissa (cs : List Char) : Option Decimal := do
  let whole := cs.takeWhile (· != '.')
  let fraction := (cs.dropWhile (· != '.')).drop 1
  if whole.isEmpty || (fraction.isEmpty && cs.contains '.') then none
  else
    let magnitude ← radixValue? 10 (whole ++ fraction)
    return ⟨magnitude, fraction.length⟩

/-- A finite float without its sign and its underscores, with an exponent or without. -/
def readFinite (cs : List Char) : Option Decimal := do
  let isMark := fun c => c == 'e' || c == 'E'
  let mantissa ← readMantissa (cs.takeWhile (!isMark ·))
  match cs.dropWhile (!isMark ·) with
  | [] => some mantissa
  | _ :: rest =>
    let exponent ← readExponent rest
    return ⟨mantissa.unscaled, mantissa.scale - exponent⟩

/-- Whether a text after its sign counts as a finite float, as far as single characters tell. -/
def countsAsFinite (signed : Bool) (cs : List Char) : Bool :=
  cs.any isFloatMark && !leadsWithZero cs && underscoresFit Char.isDigit signed cs

/-- A finite float, an infinity, or no number. -/
def readFloat (word : List Char) : Option TomlValue :=
  let (signed, _, cs) := takeSign word
  if cs = "inf".toList ∨ cs = "nan".toList then some .float
  else if countsAsFinite signed cs then
    (readFinite (withoutUnderscores cs)).map fun d => if isTooLarge d then .unreadable else .float
  else none

end ColumnBridge.Toml
