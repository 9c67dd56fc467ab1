import ColumnBridge.Error

/-!
Row identifiers and the texts in which they travel.

* `RowId.nil`: the reserved identifier; the identifiers of rows are the numbers below it;
* `RowId.render`, `RowId.parse`: the text `<n>@0`, whose suffix may be left out when it is read, and
  the text `nil`.
-/

namespace ColumnBridge

/-- The identifier of a row of a column. -/
abbrev RowId := UInt64

namespace RowId

/-- The reserved identifier that stands for no row. -/
def nil : RowId := 0x8000000000000000

/-- The text of the reserved identifier. -/
def nilText : String := "nil"

/-- The suffix of every other identifier. -/
def suffix : List Char := ['@', '0']

/-- The text of an identifier. -/
def render (id : RowId) : String := String.ofList (Nat.toDigits 10 id.toNat ++ suffix)

/-- A text without one suffix, if it has one. -/
def dropSuffix (cs : List Char) : List Char :=
  if suffix.isSuffixOf cs then cs.take (cs.length - suffix.length) else cs

/-- Read an identifier: digits with or without the suffix, or the text of the reserved one, which
gives none. -/
def parse (input : String) : Except MarshalError (Option RowId) :=
  if input = nilText then .ok none
  else
    let digits := dropSuffix input.toList
    let id := Nat.ofDigitChars 10 digits 0
    if !digits.isEmpty && digits.all Char.isDigit && id < nil.toNat then .ok (some id.toUInt64)
    else .error (.malformedRowId input)

end RowId

end ColumnBridge
