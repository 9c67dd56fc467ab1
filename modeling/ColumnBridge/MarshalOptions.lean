import ColumnBridge.Decimal.Rounding
import ColumnBridge.HostClock
import ColumnBridge.Text.Blank

/-!
What a caller may choose about fetching and storing.

* `NullOrdering`: where nil stands when a column is checked for being sorted;
* `MarshalOptions`: the bias of the host clock, the place of nil and the rounding of decimals.
-/

namespace ColumnBridge

/-- Where nil stands when a column is checked for being sorted. -/
inductive NullOrdering
  /-- Nil is equal to nil and below every value. -/
  | first
  /-- Rows with nil are left out. -/
  | skip
  deriving DecidableEq, Repr

namespace NullOrdering

/-- The name of a policy. -/
def name : NullOrdering → String
  | first => "first"
  | skip => "skip"

/-- Read a policy name; letter case and blanks around it do not count. -/
def ofName (text : String) : Except MarshalError NullOrdering :=
  match (Text.trim text).map Char.toLower with
  | "first" => .ok first
  | "skip" => .ok skip
  | other =>
    .error (.valueConversion "null ordering"
      s!"unknown policy '{other}', expected 'first' or 'skip'")

end NullOrdering

/-- What a caller may choose about fetching and storing. -/
structure MarshalOptions where
  /-- Milliseconds that a fetch of a time or timestamp subtracts and a store adds. -/
  timeBias : Int64 := HostClock.defaultBias
  nullOrdering : NullOrdering := .first
  /-- What becomes of fraction digits for which a column has no room. -/
  rounding : RoundingMode := .halfUp
  deriving DecidableEq, Repr

/-- The options for hosts whose clock has no bias. -/
def MarshalOptions.utc : MarshalOptions := { timeBias := 0 }

end ColumnBridge
