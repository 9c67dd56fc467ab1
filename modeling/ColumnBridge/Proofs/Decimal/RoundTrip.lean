import ColumnBridge.Proofs.Decimal.Fit
import ColumnBridge.Proofs.Text.DecimalTexts

/-!
The text and the host form of a stored decimal, and the way back from either.

* `Numeral.parse_render`: every 64-bit integer is read back from its canonical text, at any scale;
* `Decimal.ofText_fit64`: a host decimal that is made from a text is stored as the number that the text is
  read as;
* `Decimal.forms_lossless`: so the host form of a stored decimal, which is made from its canonical text,
  leads back to the same number as the text.
-/

namespace ColumnBridge

namespace Numeral

/-- A canonical text denotes the number that was written. -/
lemma denotes_render (n : ℤ) (scale : ℕ) : Denotes scale (Decimal.render n scale).toList n := by
  have hplaces : (ofChars (Decimal.render n scale).toList).fraction.length = scale := by
    rw [ofChars_render, Decimal.length_fractionDigits]
  refine denotes_iff_reads.mpr ⟨?_, ?_, hplaces.le, ?_⟩
  · rw [digits_render]
    exact Decimal.paddedDigits_ne_nil _ _
  · rw [digits_render]
    exact fun _ => Decimal.isDigit_of_mem_paddedDigits
  · rw [hplaces, Nat.sub_self, pow_zero, mul_one, value_render]

/-- A 64-bit integer is read back from its canonical text. -/
lemma parse_render (v : Int64) (scale : ℕ) : parse (Decimal.render v.toInt scale) scale = .ok v :=
  parse_eq_ok_iff.mpr (denotes_render v.toInt scale)

end Numeral

namespace Decimal

variable {spec : DecimalSpec} {text : String} {number : ℤ}

/-- A text that denotes a number is a decimal, which is not rounded at the scale of the number. -/
lemma exists_ofText_of_denotes (h : Numeral.Denotes spec.scale text.toList number)
    (mode : RoundingMode) : ∃ d, ofText text = .ok d ∧ d.rescale spec.scale mode = number := by
  obtain ⟨hne, hdigits, hplaces, hnumber⟩ := Numeral.denotes_iff_reads.mp h
  have hcoarser : ((Numeral.ofChars text.toList).fraction.length : ℤ) ≤ spec.scale := by
    exact_mod_cast hplaces
  have hsteps : (spec.scale - (Numeral.ofChars text.toList).fraction.length : ℤ).toNat
      = spec.scale - (Numeral.ofChars text.toList).fraction.length := by omega
  refine ⟨_, ofText_of_isDigit hne hdigits, ?_⟩
  rw [rescale_eq, if_pos hcoarser, hsteps, hnumber]

/-- **Texts and host decimals.**  A host decimal that is made from a text is stored as the number that the
text is read as, if the number has no more than the declared digits. -/
theorem ofText_fit64 {v : Int64} (h : Numeral.parse text spec.scale = .ok v) (mode : RoundingMode) :
    (ofText text >>= fun d => d.fit64 spec mode)
      = if |v.toInt| < 10 ^ spec.precision then .ok v
        else .error (.decimalOverflow spec.precision spec.scale) := by
  obtain ⟨d, hd, hrescale⟩ := exists_ofText_of_denotes (Numeral.parse_eq_ok_iff.mp h) mode
  rw [hd]
  exact fit64_of_rescale hrescale

/-- **Nothing is lost in a text or in a host decimal.**  Every 64-bit integer is read back from its canonical
text at any scale, also with its digits accumulated in 128 bits, and its host decimal has the number and the
scale.  From the host decimal the integer is stored again in every rounding mode, as it is read from the text,
if it has no more than the declared digits, and is an overflow otherwise. -/
theorem forms_lossless (v : Int64) (scale : ℕ) :
    Numeral.parse (render v.toInt scale) scale = .ok v
      ∧ Numeral.parseWide (render v.toInt scale) scale = .ok v
      ∧ ofStored v.toInt scale = .ok ⟨v.toInt, scale⟩
      ∧ ∀ (spec : DecimalSpec) (mode : RoundingMode), spec.scale = scale →
        (ofStored v.toInt scale >>= fun d => d.fit64 spec mode)
          = if |v.toInt| < 10 ^ spec.precision then Numeral.parse (render v.toInt scale) scale
            else .error (.decimalOverflow spec.precision spec.scale) := by
  have hread := Numeral.parse_render v scale
  refine ⟨hread, ?_, ofStored_eq v.toInt scale, ?_⟩
  · rw [Numeral.parseWide_eq, hread]
  · rintro spec mode rfl
    rw [hread]
    exact ofText_fit64 hread mode

/-- The sign of a number between -1 and 0 stands before a zero, and the smallest integer of 64 bits has all
its digits behind the point at a scale of twenty. -/
theorem forms_lossless_belowOne :
    render (-5) 2 = "-0.05" ∧ Numeral.parse "-0.05" 2 = .ok (-5)
      ∧ (ofStored (-5) 2 >>= fun d => d.fit64 ⟨3, 2, by decide, by decide, by decide⟩ .halfEven)
        = .ok (-5)
      ∧ render Int64.minValue.toInt 20 = "-0.09223372036854775808"
      ∧ Numeral.parse "-0.09223372036854775808" 20 = .ok Int64.minValue := by
  have htext : render (-5) 2 = "-0.05" := by decide
  have hleast : render Int64.minValue.toInt 20 = "-0.09223372036854775808" := by decide
  obtain ⟨hread, -, -, hstored⟩ := forms_lossless (-5) 2
  obtain ⟨hreadLeast, -⟩ := forms_lossless Int64.minValue 20
  have hagain := hstored ⟨3, 2, by decide, by decide, by decide⟩ .halfEven rfl
  rw [show (-5 : Int64).toInt = -5 by decide, htext] at hread
  rw [show (-5 : Int64).toInt = -5 by decide, htext, hread, if_pos (by decide)] at hagain
  rw [hleast] at hreadLeast
  exact ⟨htext, hread, hagain, hleast, hreadLeast⟩

end Decimal

end ColumnBridge
