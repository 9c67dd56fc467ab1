/-!
Reading integers that are written alone.

* `readNat`: digits, with a plus sign allowed in front;
* `readInt`: digits, with either sign allowed in front.
-/

namespace ColumnBridge.Text

/-- The number that digits denote; there has to be one, and nothing else. -/
def readDigits (cs : List Char) : Option Nat :=
  if cs.isEmpty || !cs.all Char.isDigit then none else some (Nat.ofDigitChars 10 cs 0)

/-- A natural number, with or without a plus sign. -/
def readNat (s : String) : Option Nat :=
  match s.toList with
  | '+' :: cs => readDigits cs
  | cs => readDigits cs

/-- An integer, with or without a sign. -/
def readInt (s : String) : Option Int :=
  match s.toList with
  | '-' :: cs => (readDigits cs).map fun n : Nat => -(n : Int)
  | '+' :: cs => (readDigits cs).map Int.ofNat
  | cs => (readDigits cs).map Int.ofNat

end ColumnBridge.Text
