/-!
Reading text out of raw octets, and where octets stop being text.

* `decode`: the text whose UTF-8 octets are given, or the reason why there is none;
* `Break`: the longest valid beginning, and how many octets after it can never be part of a character,
  `none` when the input ends inside a character that is valid so far;
* `decode_toByteArray`: every text is read back from its octets.
-/

namespace ColumnBridge.Text.Utf8

/-- Where octets stop being text. -/
structure Break where
  /-- The length of the longest beginning that is text. -/
  validUpTo : Nat
  /-- The octets there that begin no character, `none` if the input ends inside a character. -/
  badLength : Option Nat
  deriving DecidableEq, Repr

namespace Break

/-- The wording of a break. -/
def message (b : Break) : String :=
  match b.badLength with
  | some n => s!"invalid utf-8 sequence of {n} bytes from index {b.validUpTo}"
  | none => s!"incomplete utf-8 byte sequence from index {b.validUpTo}"

end Break

/-- The octets `lo` to `hi`. -/
structure OctetRange where
  lo : Nat
  hi : Nat

/-- Octets that continue a character. -/
def continuation : OctetRange := ⟨0x80, 0xBF⟩

/-- What has to follow a first octet: one range for each further octet of the character, or `none`
for an octet that begins no character. The second octet is narrowed where overlong forms, surrogates
and numbers above the last code point would begin. -/
def followers (first : UInt8) : Option (List OctetRange) :=
  let n := first.toNat
  if n < 0x80 then some []
  else if 0xC2 ≤ n ∧ n ≤ 0xDF then some [continuation]
  else if n = 0xE0 then some [⟨0xA0, 0xBF⟩, continuation]
  else if n = 0xED then some [⟨0x80, 0x9F⟩, continuation]
  else if 0xE1 ≤ n ∧ n ≤ 0xEF then some [continuation, continuation]
  else if n = 0xF0 then some [⟨0x90, 0xBF⟩, continuation, continuation]
  else if 0xF1 ≤ n ∧ n ≤ 0xF3 then some [continuation, continuation, continuation]
  else if n = 0xF4 then some [⟨0x80, 0x8F⟩, continuation, continuation]
  else none

/-- How far the octets after a first one follow its ranges. -/
inductive Tail
  /-- They all do, and `rest` comes after the character. -/
  | complete (rest : List UInt8)
  /-- The `taken`-th octet of the character is the last that does. -/
  | broken (taken : Nat)
  /-- The input ends first. -/
  | ended

/-- Follow the ranges of a character whose first `taken` octets are read. -/
def follow (taken : Nat) : List OctetRange → List UInt8 → Tail
  | [], rest => .complete rest
  | _ :: _, [] => .ended
  | r :: rs, b :: bs =>
    if r.lo ≤ b.toNat ∧ b.toNat ≤ r.hi then follow (taken + 1) rs bs else .broken taken

/-- What follows a complete character is no longer than what followed its first octet. -/
theorem length_le_of_follow {rs : List OctetRange} {taken : Nat} {bs rest : List UInt8}
    (h : follow taken rs bs = .complete rest) : rest.length ≤ bs.length := by
  induction rs generalizing taken bs with
  | nil => simp only [follow, Tail.complete.injEq] at h; simp [h]
  | cons r rs ih =>
    cases bs with
    | nil => simp [follow] at h
    | cons b bs =>
      simp only [follow] at h
      split at h
      · exact Nat.le_succ_of_le (ih h)
      · simp at h

/-- The first place at or after `start` where octets stop being text. -/
def findBreak (start : Nat) (bytes : List UInt8) : Option Break :=
  match bytes with
  | [] => none
  | b :: bs =>
    match followers b with
    | none => some ⟨start, some 1⟩
    | some ranges =>
      match h : follow 1 ranges bs with
      | .complete rest => findBreak (start + ranges.length + 1) rest
      | .broken taken => some ⟨start, some taken⟩
      | .ended => some ⟨start, none⟩
termination_by bytes.length
decreasing_by
  have := length_le_of_follow h
  simp only [List.length_cons]
  omega

/-- The text whose UTF-8 octets are given. -/
def decode (bytes : ByteArray) : Except Break String :=
  match String.fromUTF8? bytes with
  | some s => .ok s
  | none => .error ((findBreak 0 bytes.data.toList).getD ⟨bytes.size, none⟩)

/-- Every text is read back from its octets. -/
theorem decode_toByteArray (s : String) : decode s.toByteArray = .ok s := by
  have h : String.fromUTF8? s.toByteArray = some s := by
    simp only [String.fromUTF8?, s.isValidUTF8, dite_true]
    rfl
  simp [decode, h]

end ColumnBridge.Text.Utf8
