import ColumnBridge.Decimal.Numeral
import ColumnBridge.RowId
import Mathlib.Data.List.TakeWhile
import Mathlib.Tactic

/-!
Numbers written as text, and what is read back from them.

* **Decimals.** `Numeral.ofChars_render` takes a canonical text apart into the sign and the padded
  digits of the number, so `Numeral.value_render` is the number itself, and `Decimal.ofStored_eq`: a
  stored decimal of any size and scale is read back with both.
* **Row identifiers.** `RowId.exists_digits_of_parse` says what a text that is read looks like,
  `RowId.toNat_of_parse` that the identifier is the number its leading digits denote
  (`RowId.denoted`), and `RowId.lt_nil_of_parse` that it is never the reserved one; every other one is
  read back from its text (`RowId.parse_render`).
-/

namespace ColumnBridge

/-! ### The text of a decimal -/

/-- A digit is no sign and no point. -/
lemma ne_of_isDigit {c d : Char} (hc : c.isDigit = true) (hd : d.isDigit = false) : c ≠ d := by
  rintro rfl
  rw [hc] at hd
  cases hd

namespace Decimal

/-- Digits of a magnitude are digits. -/
lemma isDigit_of_mem_paddedDigits {magnitude scale : ℕ} {c : Char}
    (hc : c ∈ paddedDigits magnitude scale) : c.isDigit = true := by
  rcases List.mem_append.mp hc with hzero | hdigit
  · rw [List.eq_of_mem_replicate hzero]
    rfl
  · exact Nat.isDigit_of_mem_toDigits (by decide) (by decide) hdigit

/-- There is a digit in front of the point. -/
lemma lt_length_paddedDigits (magnitude scale : ℕ) :
    scale < (paddedDigits magnitude scale).length := by
  rw [paddedDigits, List.length_append, List.length_replicate]
  omega

lemma paddedDigits_ne_nil (magnitude scale : ℕ) : paddedDigits magnitude scale ≠ [] :=
  List.length_pos_iff.mp (Nat.zero_lt_of_lt (lt_length_paddedDigits ..))

/-- Zeros in front do not change the number. -/
lemma ofDigitChars_paddedDigits (magnitude scale : ℕ) :
    Nat.ofDigitChars 10 (paddedDigits magnitude scale) 0 = magnitude := by
  rw [paddedDigits, Nat.ofDigitChars_append, Nat.ofDigitChars_replicate_zero, Nat.mul_zero,
    Nat.ofDigitChars_ten_toDigits]

/-- The digits in front of the point. -/
def wholeDigits (magnitude scale : ℕ) : List Char :=
  (paddedDigits magnitude scale).take ((paddedDigits magnitude scale).length - scale)

/-- The digits behind the point. -/
def fractionDigits (magnitude scale : ℕ) : List Char :=
  (paddedDigits magnitude scale).drop ((paddedDigits magnitude scale).length - scale)

lemma wholeDigits_append_fractionDigits (magnitude scale : ℕ) :
    wholeDigits magnitude scale ++ fractionDigits magnitude scale
      = paddedDigits magnitude scale :=
  List.take_append_drop ..

@[simp] lemma length_fractionDigits (magnitude scale : ℕ) :
    (fractionDigits magnitude scale).length = scale := by
  have := lt_length_paddedDigits magnitude scale
  rw [fractionDigits, List.length_drop]
  omega

lemma isDigit_of_mem_wholeDigits {magnitude scale : ℕ} {c : Char}
    (hc : c ∈ wholeDigits magnitude scale) : c.isDigit = true :=
  isDigit_of_mem_paddedDigits (List.mem_of_mem_take hc)

lemma isDigit_of_mem_fractionDigits {magnitude scale : ℕ} {c : Char}
    (hc : c ∈ fractionDigits magnitude scale) : c.isDigit = true :=
  isDigit_of_mem_paddedDigits (List.mem_of_mem_drop hc)

/-- The characters of a canonical text. -/
lemma toList_render (unscaled : ℤ) (scale : ℕ) :
    (render unscaled scale).toList
      = (if unscaled < 0 then ['-'] else []) ++ (wholeDigits unscaled.natAbs scale
        ++ if scale = 0 then [] else '.' :: fractionDigits unscaled.natAbs scale) := by
  simp only [render, List.splitAt_eq, String.toList_ofList, List.append_assoc]
  rfl

end Decimal

namespace Numeral

open Decimal

/-- What may stand in front of the digits of a number: a sign or nothing. The number is negative or not. -/
inductive Sign : List Char → Bool → Prop
  | none : Sign [] false
  | plus : Sign ['+'] false
  | minus : Sign ['-'] true

/-- A text that begins with no sign has none to take off. -/
lemma splitSign_cons {c : Char} {cs : List Char} (hminus : c ≠ '-') (hplus : c ≠ '+') :
    splitSign (c :: cs) = (false, c :: cs) := by
  rw [splitSign]
  · intro rest h
    exact hminus (List.cons.inj h).1
  · intro rest h
    exact hplus (List.cons.inj h).1

/-- A sign is taken off digits and points. -/
lemma splitSign_append {sign body : List Char} {negative : Bool} (hsign : Sign sign negative)
    (hbody : ∀ c ∈ body, c.isDigit = true ∨ c = '.') :
    splitSign (sign ++ body) = (negative, body) := by
  cases hsign with
  | plus => rfl
  | minus => rfl
  | none =>
    cases body with
    | nil => rfl
    | cons c cs =>
      rcases hbody c List.mem_cons_self with hc | rfl
      · exact splitSign_cons (ne_of_isDigit hc rfl) (ne_of_isDigit hc rfl)
      · exact splitSign_cons (by decide) (by decide)

/-- A text is taken apart into its sign, the digits in front of the first point and what follows it. -/
lemma ofChars_append {sign whole rest : List Char} {negative : Bool} (hsign : Sign sign negative)
    (hwhole : ∀ c ∈ whole, c.isDigit = true)
    (hrest : rest = [] ∨ ∃ fraction, rest = '.' :: fraction ∧ ∀ c ∈ fraction, c.isDigit = true) :
    ofChars (sign ++ (whole ++ rest)) = ⟨negative, whole, rest.drop 1⟩ := by
  have hbody : ∀ c ∈ whole ++ rest, c.isDigit = true ∨ c = '.' := by
    intro c hc
    rcases List.mem_append.mp hc with hc | hc
    · exact .inl (hwhole c hc)
    · rcases hrest with rfl | ⟨fraction, rfl, hfraction⟩
      · cases hc
      · rcases List.mem_cons.mp hc with rfl | hc
        · exact .inr rfl
        · exact .inl (hfraction c hc)
  have hpoint : ∀ c ∈ whole, (c != '.') = true := fun c hc =>
    bne_iff_ne.mpr (ne_of_isDigit (hwhole c hc) rfl)
  simp only [ofChars, splitSign_append hsign hbody, List.takeWhile_append_of_pos hpoint,
    List.dropWhile_append_of_pos hpoint]
  rcases hrest with rfl | ⟨fraction, rfl, -⟩ <;> simp

/-- A canonical text has a minus sign exactly if its number is negative. -/
lemma sign_render (unscaled : ℤ) :
    Sign (if unscaled < 0 then ['-'] else []) (decide (unscaled < 0)) := by
  split_ifs with hneg
  · rw [decide_eq_true hneg]
    exact .minus
  · rw [decide_eq_false hneg]
    exact .none

/-- A canonical text is taken apart into its sign, its whole digits and its fraction digits. -/
lemma ofChars_render (unscaled : ℤ) (scale : ℕ) :
    ofChars (render unscaled scale).toList
      = ⟨decide (unscaled < 0), wholeDigits unscaled.natAbs scale,
          fractionDigits unscaled.natAbs scale⟩ := by
  have hwhole : ∀ c ∈ wholeDigits unscaled.natAbs scale, c.isDigit = true := fun _ =>
    isDigit_of_mem_wholeDigits
  have hfraction : ∀ c ∈ fractionDigits unscaled.natAbs scale, c.isDigit = true := fun _ =>
    isDigit_of_mem_fractionDigits
  rw [toList_render]
  by_cases hscale : scale = 0
  · have hnone : fractionDigits unscaled.natAbs scale = [] := by
      rw [← List.length_eq_zero_iff, length_fractionDigits, hscale]
    rw [if_pos hscale, ofChars_append (sign_render unscaled) hwhole (.inl rfl), hnone]
    rfl
  · rw [if_neg hscale, ofChars_append (sign_render unscaled) hwhole (.inr ⟨_, rfl, hfraction⟩)]
    rfl

lemma digits_render (unscaled : ℤ) (scale : ℕ) :
    (ofChars (render unscaled scale).toList).digits = paddedDigits unscaled.natAbs scale := by
  rw [ofChars_render, digits, wholeDigits_append_fractionDigits]

/-- The value of a canonical text is the number that was written. -/
lemma value_render (unscaled : ℤ) (scale : ℕ) :
    (ofChars (render unscaled scale).toList).value = unscaled := by
  have hnegative : (ofChars (render unscaled scale).toList).negative = decide (unscaled < 0) := by
    rw [ofChars_render]
  simp only [value, digits_render, ofDigitChars_paddedDigits, hnegative, decide_eq_true_eq]
  split <;> omega

end Numeral

namespace Decimal

/-- A text that has digits, and only digits, in its parts is a decimal. -/
lemma ofText_of_isDigit {text : String} (hne : (Numeral.ofChars text.toList).digits ≠ [])
    (hdigits : ∀ c ∈ (Numeral.ofChars text.toList).digits, c.isDigit = true) :
    ofText text = .ok ⟨(Numeral.ofChars text.toList).value,
      (Numeral.ofChars text.toList).fraction.length⟩ := by
  rw [ofText]
  refine if_neg ?_
  simpa using ⟨hne, hdigits⟩

/-- A stored decimal is read back from its canonical text, with its scale. -/
theorem ofStored_eq (unscaled : ℤ) (scale : ℕ) :
    ofStored unscaled scale = .ok ⟨unscaled, scale⟩ := by
  have hparts := Numeral.digits_render unscaled scale
  have hne : (Numeral.ofChars (render unscaled scale).toList).digits ≠ [] := by
    rw [hparts]
    exact paddedDigits_ne_nil _ _
  have hdigits : ∀ c ∈ (Numeral.ofChars (render unscaled scale).toList).digits,
      c.isDigit = true := by
    rw [hparts]
    exact fun _ => isDigit_of_mem_paddedDigits
  rw [ofStored, ofText_of_isDigit hne hdigits, Numeral.value_render, Numeral.ofChars_render,
    length_fractionDigits]

end Decimal

/-! ### The text of a row identifier -/

namespace RowId

/-- The number that the leading digits of a text denote. -/
def denoted (text : String) : ℕ := Nat.ofDigitChars 10 (text.toList.takeWhile Char.isDigit) 0

/-- A text without its suffix, and with it put back. -/
lemma eq_dropSuffix (cs : List Char) : cs = dropSuffix cs ∨ cs = dropSuffix cs ++ suffix := by
  rw [dropSuffix]
  split
  · next h =>
    obtain ⟨front, rfl⟩ := List.isSuffixOf_iff_suffix.mp h
    right
    simp
  · left; rfl

/-- A text that is read as an identifier is a run of digits below the reserved number, with or without
the suffix. -/
lemma exists_digits_of_parse {text : String} {id : RowId} (h : parse text = .ok (some id)) :
    ∃ digits : List Char, digits ≠ [] ∧ (∀ c ∈ digits, c.isDigit = true)
      ∧ (text.toList = digits ∨ text.toList = digits ++ suffix)
      ∧ id.toNat = Nat.ofDigitChars 10 digits 0 ∧ id.toNat < nil.toNat := by
  rw [parse] at h
  split at h
  · cases h
  · dsimp only at h
    split at h
    · next hok =>
      simp only [Bool.and_eq_true, Bool.not_eq_true', List.isEmpty_eq_false_iff,
        List.all_eq_true, decide_eq_true_eq] at hok
      obtain ⟨⟨hne, hall⟩, hlt⟩ := hok
      cases h
      have hid : (Nat.ofDigitChars 10 (dropSuffix text.toList) 0).toUInt64.toNat
          = Nat.ofDigitChars 10 (dropSuffix text.toList) 0 :=
        UInt64.toNat_ofNat_of_lt' (lt_trans hlt (by decide))
      exact ⟨dropSuffix text.toList, hne, hall, eq_dropSuffix _, hid, by rwa [hid]⟩
    · cases h

/-- An identifier that was read is the number that its text denotes. -/
lemma toNat_of_parse {text : String} {id : RowId} (h : parse text = .ok (some id)) :
    id.toNat = denoted text := by
  obtain ⟨digits, -, hall, htext, hid, -⟩ := exists_digits_of_parse h
  have htake : text.toList.takeWhile Char.isDigit = digits := by
    rcases htext with ht | ht
    · rw [ht, List.takeWhile_eq_self_iff]
      exact hall
    · rw [ht, List.takeWhile_append_of_pos hall, suffix, List.takeWhile_cons_of_neg (by decide),
        List.append_nil]
  rw [hid, denoted, htake]

/-- No text is read as the reserved identifier. -/
lemma lt_nil_of_parse {text : String} {id : RowId} (h : parse text = .ok (some id)) :
    id.toNat < nil.toNat := by
  obtain ⟨_, _, _, _, _, hlt⟩ := exists_digits_of_parse h
  exact hlt

lemma parse_nilText : parse nilText = .ok none := if_pos rfl

/-- The text that is read as no identifier. -/
lemma eq_nilText_of_parse {text : String} (h : parse text = .ok none) : text = nilText := by
  rw [parse] at h
  split at h
  · assumption
  · dsimp only at h
    split at h <;> cases h

/-- The text of an identifier: its number and the suffix. -/
lemma render_eq (id : RowId) : render id = toString id.toNat ++ "@0" := by
  apply String.toList_injective
  rw [render, String.toList_ofList, String.toList_append, Nat.toString_eq_repr, Nat.toList_repr]
  rfl

/-- The suffix is taken off a text that ends in it. -/
lemma dropSuffix_append (cs : List Char) : dropSuffix (cs ++ suffix) = cs := by
  rw [dropSuffix, if_pos (List.isSuffixOf_iff_suffix.mpr (List.suffix_append cs suffix))]
  simp

/-- An identifier below the reserved one is read back from its text. -/
lemma parse_render {id : RowId} (h : id.toNat < nil.toNat) : parse (render id) = .ok (some id) := by
  set digits := Nat.toDigits 10 id.toNat with hdigits
  have htext : (render id).toList = digits ++ suffix := String.toList_ofList
  have hvalue : Nat.ofDigitChars 10 digits 0 = id.toNat := Nat.ofDigitChars_ten_toDigits
  have hne : digits ≠ [] := Nat.toDigits_ne_nil
  have hall : ∀ c ∈ digits, c.isDigit = true := fun c hc =>
    Nat.isDigit_of_mem_toDigits (by decide) (by decide) hc
  have hnotNil : render id ≠ nilText := by
    intro hnil
    rw [hnil] at htext
    -- the text of the reserved identifier ends in no digit and no suffix
    have hlast : (nilText.toList).getLast? = (digits ++ suffix).getLast? := congrArg _ htext
    rw [List.getLast?_append_of_ne_nil _ (by decide)] at hlast
    exact absurd hlast (by decide)
  rw [parse, if_neg hnotNil]
  simp only [htext, dropSuffix_append, hvalue]
  rw [if_pos]
  · rw [Nat.toUInt64_eq, UInt64.ofNat_toNat]
  · simp only [Bool.and_eq_true, Bool.not_eq_true', List.isEmpty_eq_false_iff, List.all_eq_true,
      decide_eq_true_eq]
    exact ⟨⟨hne, hall⟩, h⟩

end RowId

end ColumnBridge
