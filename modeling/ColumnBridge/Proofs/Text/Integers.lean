import ColumnBridge.Proofs.Text.DecimalTexts
import ColumnBridge.Settings.Environment

/-!
The texts of integers and of truth values that stand alone.

* `Text.Writes`: the texts and their integers as a grammar, with the sign told apart;
* `Text.readNat_eq_some_iff`, `Text.readInt_eq_some_iff`: a natural number may have a plus sign, an integer
  either sign;
* `Text.SameLetters`: two texts differ in letter case only, and `saysYes_iff`: the words that say yes.
-/

namespace ColumnBridge

namespace Text

open Numeral

/-- A text writes an integer: a sign, which says whether it is negative, or none, and at least one digit. -/
inductive Writes (negative : Bool) : List Char → ℤ → Prop
  | intro {sign digits : List Char} (hsign : Sign sign negative) (hne : digits ≠ [])
      (hdigits : ∀ c ∈ digits, c.isDigit = true) : Writes negative (sign ++ digits) (signed negative digits)

variable {cs : List Char} {text : String} {n : ℕ}

lemma readDigits_eq_some_iff :
    readDigits cs = some n ↔ cs ≠ [] ∧ (∀ c ∈ cs, c.isDigit = true) ∧ n = Nat.ofDigitChars 10 cs 0 := by
  rw [readDigits]
  split_ifs with h
  · simp only [Bool.or_eq_true, List.isEmpty_iff, Bool.not_eq_true', ← Bool.not_eq_true,
      List.all_eq_true] at h
    simp only [false_iff]
    rintro ⟨hne, hdigits, -⟩
    exact h.elim hne fun hnot => hnot hdigits
  · simp only [Bool.or_eq_true, List.isEmpty_iff, Bool.not_eq_true', ← Bool.not_eq_true, List.all_eq_true,
      not_or, not_not] at h
    rw [Option.some.injEq, eq_comm]
    exact ⟨fun hn => ⟨h.1, h.2, hn⟩, fun hn => hn.2.2⟩

/-- An integer is read from the digits behind its sign. -/
lemma readInt_eq (text : String) :
    readInt text = (readDigits (splitSign text.toList).2).map fun n : ℕ =>
      (if (splitSign text.toList).1 then -1 else 1) * (n : ℤ) := by
  rw [readInt]
  generalize text.toList = cs
  split
  · exact Option.map_congr fun n _ => (neg_one_mul (n : ℤ)).symm
  · exact Option.map_congr fun n _ => (one_mul (n : ℤ)).symm
  · next hminus hplus =>
    rw [splitSign.eq_3 _ hminus hplus]
    exact Option.map_congr fun n _ => (one_mul (n : ℤ)).symm

/-- So is a natural number, unless the sign is a minus. -/
lemma readNat_eq (text : String) :
    readNat text = if (splitSign text.toList).1 then none else readDigits (splitSign text.toList).2 := by
  have hminus (cs : List Char) : readDigits ('-' :: cs) = none := rfl
  rw [readNat]
  generalize text.toList = cs
  rw [splitSign.eq_def]
  split
  · rfl
  · split
    · next cs _ => simp [hminus cs]
    · next hplus => exact absurd rfl (hplus _)
    · rfl

/-- A sign is taken off digits. -/
lemma splitSign_digits {sign digits : List Char} {negative : Bool} (hsign : Sign sign negative)
    (hdigits : ∀ c ∈ digits, c.isDigit = true) : splitSign (sign ++ digits) = (negative, digits) :=
  splitSign_append hsign fun c hc => .inl (hdigits c hc)

lemma readInt_eq_some_iff {z : ℤ} :
    readInt text = some z ↔ ∃ negative, Writes negative text.toList z := by
  rw [readInt_eq]
  constructor
  · intro h
    obtain ⟨n, hn, rfl⟩ := Option.map_eq_some_iff.mp h
    obtain ⟨hne, hdigits, rfl⟩ := readDigits_eq_some_iff.mp hn
    obtain ⟨sign, hsign, htext⟩ := exists_sign text.toList
    refine ⟨(splitSign text.toList).1, ?_⟩
    have hwrites := Writes.intro hsign hne hdigits
    rwa [← htext] at hwrites
  · rintro ⟨negative, h⟩
    generalize text.toList = cs at h
    cases h with
    | intro hsign hne hdigits =>
      rw [splitSign_digits hsign hdigits, readDigits_eq_some_iff.mpr ⟨hne, hdigits, rfl⟩]
      rfl

lemma readNat_eq_some_iff : readNat text = some n ↔ Writes false text.toList n := by
  rw [readNat_eq]
  constructor
  · intro h
    obtain ⟨sign, hsign, htext⟩ := exists_sign text.toList
    split_ifs at h with hnegative
    obtain ⟨hne, hdigits, rfl⟩ := readDigits_eq_some_iff.mp h
    have hwrites := Writes.intro hsign hne hdigits
    rw [Bool.not_eq_true] at hnegative
    rwa [← htext, hnegative, signed, if_neg Bool.false_ne_true, one_mul] at hwrites
  · generalize text.toList = cs
    generalize hz : (n : ℤ) = z
    intro h
    cases h with
    | @intro sign digits hsign hne hdigits =>
      have hn : n = Nat.ofDigitChars 10 digits 0 := by
        rw [signed, if_neg Bool.false_ne_true, one_mul] at hz
        exact Int.ofNat_inj.mp hz
      rw [splitSign_digits hsign hdigits, if_neg Bool.false_ne_true, readDigits_eq_some_iff]
      exact ⟨hne, hdigits, hn⟩

/-! ### Letter case -/

/-- A text is a word but for the case of its letters; the word has no capitals. -/
def SameLetters (text word : List Char) : Prop := List.Forall₂ (fun c d => c = d ∨ c = d.toUpper) text word

/-- The lower case of a capital is 32 places behind it. -/
lemma toNat_toLower (c : Char) :
    c.toLower.toNat = if 65 ≤ c.toNat ∧ c.toNat ≤ 90 then c.toNat + 32 else c.toNat := by
  by_cases h : 65 ≤ c.toNat ∧ c.toNat ≤ 90
  · have hlower : c.toLower = ⟨c.val + ('a'.val - 'A'.val), _⟩ := dif_pos h
    calc c.toLower.toNat = (c.toNat + 32) % 2 ^ 32 := by
          rw [hlower, Char.toNat, UInt32.toNat_add]
          rfl
      _ = if 65 ≤ c.toNat ∧ c.toNat ≤ 90 then c.toNat + 32 else c.toNat := by
          rw [if_pos h, Nat.mod_eq_of_lt (by omega)]
  · have hlower : c.toLower = c := dif_neg h
    rw [if_neg h, hlower]

/-- The upper case of a small letter is 32 places before it, which 32-bit arithmetic reaches by wrapping. -/
lemma toNat_toUpper (c : Char) :
    c.toUpper.toNat = if 97 ≤ c.toNat ∧ c.toNat ≤ 122 then c.toNat - 32 else c.toNat := by
  by_cases h : 97 ≤ c.toNat ∧ c.toNat ≤ 122
  · have hupper : c.toUpper = ⟨c.val + ('A'.val - 'a'.val), _⟩ := dif_pos h
    calc c.toUpper.toNat = (c.toNat + 4294967264) % 2 ^ 32 := by
          rw [hupper, Char.toNat, UInt32.toNat_add]
          rfl
      _ = if 97 ≤ c.toNat ∧ c.toNat ≤ 122 then c.toNat - 32 else c.toNat := by
          rw [if_pos h]
          omega
  · have hupper : c.toUpper = c := dif_neg h
    rw [if_neg h, hupper]

/-- A character is taken to lower case from that case or from the other. -/
lemma toLower_eq_iff {c d : Char} (hd : d.toLower = d) : c.toLower = d ↔ c = d ∨ c = d.toUpper := by
  rw [← Char.toNat_inj, toNat_toLower] at hd
  rw [← Char.toNat_inj, ← Char.toNat_inj, ← Char.toNat_inj, toNat_toLower, toNat_toUpper]
  split_ifs at hd ⊢ <;> omega

lemma map_toLower_eq_iff {ds : List Char} (hds : ∀ d ∈ ds, d.toLower = d) :
    cs.map Char.toLower = ds ↔ SameLetters cs ds := by
  induction ds generalizing cs with
  | nil => simp [SameLetters]
  | cons d ds ih =>
    cases cs with
    | nil => simp [SameLetters]
    | cons c cs =>
      rw [List.map_cons, List.cons.injEq, SameLetters, List.forall₂_cons,
        toLower_eq_iff (hds d List.mem_cons_self), ih fun d hd => hds d (List.mem_cons_of_mem _ hd)]
      rfl

end Text

/-- Exactly the words that say yes do so, in any letter case. -/
lemma saysYes_iff (text : String) :
    saysYes text = true
      ↔ ∃ word ∈ ["true", "1", "yes", "on"], Text.SameLetters text.toList word.toList := by
  have hlower {word : String} (hmem : word ∈ ["true", "1", "yes", "on"]) :
      text.map Char.toLower = word ↔ Text.SameLetters text.toList word.toList := by
    have hword : ∀ word ∈ ["true", "1", "yes", "on"], ∀ d ∈ word.toList, d.toLower = d := by simp
    rw [← Text.map_toLower_eq_iff (hword word hmem), ← String.toList_map, String.toList_inj]
  rw [saysYes, List.contains_iff_mem]
  constructor
  · exact fun h => ⟨_, h, (hlower h).mp rfl⟩
  · rintro ⟨word, hmem, hword⟩
    rwa [(hlower hmem).mpr hword]

end ColumnBridge
