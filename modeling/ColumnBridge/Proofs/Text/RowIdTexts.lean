import ColumnBridge.Proofs.Text.Numerals

/-!
The texts of row identifiers.

* `RowId.Denotes`: the texts and their numbers as a grammar, which knows nothing of how a text is taken
  apart; `RowId.parse_eq_ok_some_iff` says that exactly the numbers below the reserved one are read;
* `RowId.toDigits_ofDigitChars`: digits that are read as a number and written again lose the zeros in
  front, and nothing else;
* `RowId.parse_classifies`: what every text is read as, and what becomes of it when it is written again.
-/

namespace ColumnBridge.RowId

/-! ### The language -/

/-- A text denotes a number: digits, at least one, alone or with the suffix behind them. -/
inductive Denotes : List Char → ℕ → Prop
  | bare {digits : List Char} (hne : digits ≠ []) (hdigits : ∀ c ∈ digits, c.isDigit = true) :
      Denotes digits (Nat.ofDigitChars 10 digits 0)
  | suffixed {digits : List Char} (hne : digits ≠ []) (hdigits : ∀ c ∈ digits, c.isDigit = true) :
      Denotes (digits ++ suffix) (Nat.ofDigitChars 10 digits 0)

/-- The digits that are left of a number without the zeros in front; a zero stays where no other digit
does. -/
def significant (digits : List Char) : List Char :=
  match digits.dropWhile (· == '0') with
  | [] => ['0']
  | rest => rest

/-- A text without zeros in front of its number, and with the suffix. -/
def normalized (text : String) : String :=
  String.ofList (significant (text.toList.takeWhile Char.isDigit) ++ suffix)

/-- A text has the suffix and no zero in front of its number, unless that is the number zero. -/
def IsNormal (text : String) : Prop :=
  ∃ digits, text.toList = digits ++ suffix ∧ (digits.head? = some '0' → digits = ['0'])

section Digits

variable {digits : List Char}

lemma at_not_mem_digits (hdigits : ∀ c ∈ digits, c.isDigit = true) : '@' ∉ digits := fun hat =>
  Bool.false_ne_true (hdigits '@' hat)

/-- A text of digits has no suffix to take off. -/
lemma dropSuffix_digits (hdigits : ∀ c ∈ digits, c.isDigit = true) : dropSuffix digits = digits := by
  rw [dropSuffix, if_neg]
  intro hsuffix
  obtain ⟨front, hfront⟩ := List.isSuffixOf_iff_suffix.mp hsuffix
  refine at_not_mem_digits hdigits ?_
  rw [← hfront]
  exact List.mem_append_right _ List.mem_cons_self

/-- No text of digits, with the suffix or without it, is the text of the reserved identifier. -/
lemma ne_nilText_of_denotes {text : String} {n : ℕ} (h : Denotes text.toList n) : text ≠ nilText := by
  have hfirst : ∀ digits rest : List Char, digits ≠ [] → (∀ c ∈ digits, c.isDigit = true) →
      digits ++ rest ≠ nilText.toList := by
    rintro digits rest hne hdigits heq
    obtain ⟨c, cs, rfl⟩ := List.exists_cons_of_ne_nil hne
    have hc : c = 'n' := (List.cons.inj heq).1
    rw [hc] at hdigits
    exact Bool.false_ne_true (hdigits 'n' List.mem_cons_self)
  rintro rfl
  generalize htext : nilText.toList = cs at h
  cases h with
  | bare hne hdigits => exact hfirst _ [] hne hdigits (by rw [List.append_nil, htext])
  | suffixed hne hdigits => exact hfirst _ _ hne hdigits htext.symm

/-- A digit is written for the number that it stands for. -/
lemma digitChar_sub_zero {c : Char} (hc : c.isDigit = true) :
    c.toNat - '0'.toNat < 10 ∧ Nat.digitChar (c.toNat - '0'.toNat) = c := by
  have hbounds : 48 ≤ c.toNat ∧ c.toNat ≤ 57 := by
    rw [Char.isDigit, Bool.and_eq_true, decide_eq_true_eq, decide_eq_true_eq] at hc
    exact hc
  have hzero : '0'.toNat = 48 := rfl
  have hlt : c.toNat - '0'.toNat < 10 := by omega
  refine ⟨hlt, Char.toNat_inj.mp ?_⟩
  rw [Nat.toNat_digitChar_of_lt_ten hlt]
  omega

/-- Digits behind a positive number are written as they are. -/
lemma toDigits_ofDigitChars_of_pos {n : ℕ} (hn : 0 < n) (hdigits : ∀ c ∈ digits, c.isDigit = true) :
    Nat.toDigits 10 (Nat.ofDigitChars 10 digits n) = Nat.toDigits 10 n ++ digits := by
  induction digits generalizing n with
  | nil => rw [Nat.ofDigitChars_nil, List.append_nil]
  | cons c digits ih =>
    obtain ⟨hlt, hchar⟩ := digitChar_sub_zero (hdigits c List.mem_cons_self)
    have hone : Nat.toDigits 10 (10 * n + (c.toNat - '0'.toNat)) = Nat.toDigits 10 n ++ [c] := by
      rw [← Nat.toDigits_append_toDigits (by decide) hn hlt, Nat.toDigits_of_lt_base hlt, hchar]
    rw [Nat.ofDigitChars_cons, ih (by omega) fun d hd => hdigits d (List.mem_cons_of_mem c hd), hone,
      List.append_assoc, List.singleton_append]

/-- Digits that are read as a number are written again without the zeros in front. -/
lemma toDigits_ofDigitChars (hdigits : ∀ c ∈ digits, c.isDigit = true) :
    Nat.toDigits 10 (Nat.ofDigitChars 10 digits 0) = significant digits := by
  induction digits with
  | nil => rfl
  | cons c digits ih =>
    have hrest : ∀ d ∈ digits, d.isDigit = true := fun d hd => hdigits d (List.mem_cons_of_mem c hd)
    rw [Nat.ofDigitChars_cons, Nat.mul_zero, Nat.zero_add, significant, List.dropWhile_cons]
    by_cases hc : c = '0'
    · subst hc
      exact ih hrest
    · obtain ⟨hlt, hchar⟩ := digitChar_sub_zero (hdigits c List.mem_cons_self)
      have hpos : 0 < c.toNat - '0'.toNat := by
        refine Nat.pos_of_ne_zero fun hzero => hc ?_
        rw [← hchar, hzero]
        rfl
      rw [toDigits_ofDigitChars_of_pos hpos hrest, Nat.toDigits_of_lt_base hlt, hchar,
        if_neg (by simpa using hc)]
      rfl

/-- Digits have no zeros to lose exactly if they do not begin with one, or are one zero. -/
lemma significant_eq_self_iff (hne : digits ≠ []) :
    significant digits = digits ↔ (digits.head? = some '0' → digits = ['0']) := by
  obtain ⟨c, cs, rfl⟩ := List.exists_cons_of_ne_nil hne
  by_cases hc : c = '0'
  · subst hc
    constructor
    · intro h _
      rw [significant] at h
      split at h
      · exact h.symm
      · -- what is left begins with no zero
        next hrest =>
        have hhead := List.head?_dropWhile_not (· == '0') ('0' :: cs)
        rw [h] at hhead
        cases hhead
    · intro h
      rw [h rfl]
      rfl
  · rw [significant, List.dropWhile_cons_of_neg (by simpa using hc)]
    exact iff_of_true rfl fun hhead => absurd (Option.some.inj hhead) hc

end Digits

/-! ### What is read -/

section Read

variable {text : String} {id : RowId}

/-- What is refused is refused as a malformed row identifier. -/
lemma eq_malformed_of_parse {e : MarshalError} (h : parse text = .error e) :
    e = .malformedRowId text := by
  rw [parse] at h
  dsimp only at h
  split_ifs at h
  exact (Except.error.inj h).symm

/-- Digits are taken apart from the suffix. -/
lemma dropSuffix_of_denotes {n : ℕ} {cs : List Char} (h : Denotes cs n) :
    dropSuffix cs ≠ [] ∧ (∀ c ∈ dropSuffix cs, c.isDigit = true)
      ∧ Nat.ofDigitChars 10 (dropSuffix cs) 0 = n := by
  cases h with
  | bare hne hdigits =>
    rw [dropSuffix_digits hdigits]
    exact ⟨hne, hdigits, rfl⟩
  | suffixed hne hdigits =>
    rw [dropSuffix_append]
    exact ⟨hne, hdigits, rfl⟩

/-- A text denotes one number only. -/
lemma Denotes.unique {n m : ℕ} {cs : List Char} (hn : Denotes cs n) (hm : Denotes cs m) : n = m :=
  (dropSuffix_of_denotes hn).2.2.symm.trans (dropSuffix_of_denotes hm).2.2

/-- Exactly what denotes a number below the reserved one is read as an identifier. -/
lemma parse_eq_ok_some_iff :
    parse text = .ok (some id) ↔ Denotes text.toList id.toNat ∧ id.toNat < nil.toNat := by
  constructor
  · intro h
    obtain ⟨digits, hne, hdigits, htext, hid, hlt⟩ := exists_digits_of_parse h
    refine ⟨?_, hlt⟩
    rw [hid]
    rcases htext with htext | htext <;> rw [htext]
    · exact .bare hne hdigits
    · exact .suffixed hne hdigits
  · rintro ⟨h, hlt⟩
    obtain ⟨hne, hdigits, hnumber⟩ := dropSuffix_of_denotes h
    rw [parse, if_neg (ne_nilText_of_denotes h)]
    dsimp only
    rw [hnumber, if_pos, Nat.toUInt64_eq, UInt64.ofNat_toNat]
    simp only [Bool.and_eq_true, Bool.not_eq_true', List.isEmpty_eq_false_iff, List.all_eq_true,
      decide_eq_true_eq]
    exact ⟨⟨hne, hdigits⟩, hlt⟩

lemma parse_eq_ok_none_iff : parse text = .ok none ↔ text = nilText :=
  ⟨eq_nilText_of_parse, fun h => h ▸ parse_nilText⟩

/-- Everything else is refused. -/
lemma parse_eq_error_iff :
    parse text = .error (.malformedRowId text)
      ↔ text ≠ nilText ∧ ¬ ∃ n < nil.toNat, Denotes text.toList n := by
  constructor
  · intro h
    refine ⟨fun hnil => ?_, ?_⟩
    · rw [parse_eq_ok_none_iff.mpr hnil] at h
      cases h
    · rintro ⟨n, hlt, hn⟩
      have hid : (UInt64.ofNat n).toNat = n :=
        UInt64.toNat_ofNat_of_lt' (hlt.trans (by decide))
      have hok : parse text = .ok (some (UInt64.ofNat n)) :=
        parse_eq_ok_some_iff.mpr (hid.symm ▸ ⟨hn, hlt⟩)
      rw [hok] at h
      cases h
  · rintro ⟨hnil, hnone⟩
    cases h : parse text with
    | error e => rw [eq_malformed_of_parse h]
    | ok found =>
      cases found with
      | none => exact absurd (parse_eq_ok_none_iff.mp h) hnil
      | some id =>
        obtain ⟨hid, hlt⟩ := parse_eq_ok_some_iff.mp h
        exact absurd ⟨_, hlt, hid⟩ hnone

/-! ### What is written again -/

/-- The text of an identifier denotes its number. -/
lemma denotes_render (id : RowId) : Denotes (render id).toList id.toNat := by
  have hdigits : ∀ c ∈ Nat.toDigits 10 id.toNat, c.isDigit = true := fun c hc =>
    Nat.isDigit_of_mem_toDigits (by decide) (by decide) hc
  have hnumber := Denotes.suffixed Nat.toDigits_ne_nil hdigits
  rw [Nat.ofDigitChars_ten_toDigits] at hnumber
  rwa [render, String.toList_ofList]

/-- The reserved identifier and those above it are not read back. -/
lemma parse_render_of_le {id : RowId} (h : nil.toNat ≤ id.toNat) :
    parse (render id) = .error (.malformedRowId (render id)) := by
  refine parse_eq_error_iff.mpr ⟨ne_nilText_of_denotes (denotes_render id), ?_⟩
  rintro ⟨n, hlt, hn⟩
  rw [hn.unique (denotes_render id)] at hlt
  exact absurd h (Nat.not_le.mpr hlt)

/-- The leading digits of a text that is read. -/
lemma takeWhile_of_denotes {n : ℕ} {cs : List Char} (h : Denotes cs n) :
    ∃ digits, cs.takeWhile Char.isDigit = digits ∧ digits ≠ [] ∧ (∀ c ∈ digits, c.isDigit = true)
      ∧ Nat.ofDigitChars 10 digits 0 = n ∧ (cs = digits ∨ cs = digits ++ suffix) := by
  cases h with
  | bare hne hdigits =>
    exact ⟨cs, List.takeWhile_eq_self_iff.mpr hdigits, hne, hdigits, rfl, .inl rfl⟩
  | @suffixed digits hne hdigits =>
    refine ⟨digits, ?_, hne, hdigits, rfl, .inr rfl⟩
    rw [List.takeWhile_append_of_pos hdigits, suffix, List.takeWhile_cons_of_neg (by decide),
      List.append_nil]

/-- An identifier that was read is written without the zeros in front of it, and with the suffix. -/
lemma render_of_parse (h : parse text = .ok (some id)) : render id = normalized text := by
  obtain ⟨digits, htake, -, hdigits, hnumber, -⟩ :=
    takeWhile_of_denotes (parse_eq_ok_some_iff.mp h).1
  rw [render, normalized, htake, ← hnumber, toDigits_ofDigitChars hdigits]

/-- A text that is read is written again as it was exactly if it was in that form. -/
lemma render_eq_self_iff (h : parse text = .ok (some id)) : render id = text ↔ IsNormal text := by
  obtain ⟨digits, htake, hne, hdigits, -, hparts⟩ :=
    takeWhile_of_denotes (parse_eq_ok_some_iff.mp h).1
  rw [render_of_parse h, normalized, htake, ← String.toList_inj, String.toList_ofList]
  rcases hparts with htext | htext
  · -- a text without the suffix is not written again as it was
    have hno : ∀ front : List Char, text.toList ≠ front ++ suffix := by
      intro front heq
      refine at_not_mem_digits hdigits ?_
      rw [← htext, heq]
      exact List.mem_append_right _ List.mem_cons_self
    refine iff_of_false (fun heq => hno _ heq.symm) ?_
    rintro ⟨front, heq, -⟩
    exact hno front heq
  · rw [htext, List.append_left_inj, significant_eq_self_iff hne]
    constructor
    · intro hzero
      exact ⟨digits, htext, hzero⟩
    · rintro ⟨front, heq, hzero⟩
      rw [htext, List.append_left_inj] at heq
      exact heq ▸ hzero

end Read

/-- **The texts of row identifiers.**  Every text is the text of no row, or digits of a number below 2^63 with
or without one suffix, or malformed, and is read accordingly.  Of the identifiers those below 2^63 are read
back from their texts and all others are malformed.  A text that is read as an identifier is written again
without zeros in front of the number and with the suffix, and so as it was exactly if it had that form. -/
theorem parse_classifies :
    (∀ text, parse text = .ok none ↔ text = "nil")
      ∧ (∀ text id, parse text = .ok (some id) ↔ Denotes text.toList id.toNat ∧ id.toNat < 2 ^ 63)
      ∧ (∀ text, parse text = .error (.malformedRowId text)
          ↔ text ≠ "nil" ∧ ¬ ∃ n < 2 ^ 63, Denotes text.toList n)
      ∧ (∀ id, parse (render id)
          = if id.toNat < 2 ^ 63 then .ok (some id) else .error (.malformedRowId (render id)))
      ∧ ∀ text id, parse text = .ok (some id) →
          render id = normalized text ∧ (render id = text ↔ IsNormal text) := by
  refine ⟨fun _ => parse_eq_ok_none_iff, fun _ _ => parse_eq_ok_some_iff,
    fun _ => parse_eq_error_iff, fun id => ?_,
    fun _ _ h => ⟨render_of_parse h, render_eq_self_iff h⟩⟩
  split_ifs with hlt
  · exact parse_render hlt
  · exact parse_render_of_le (Nat.not_lt.mp hlt)

/-- Ten zeros in front of a one are read and not written again, and a second suffix is not read; the largest
identifier of a row is read back, and the reserved one is not. -/
theorem parse_classifies_zeros :
    parse "00000000001" = .ok (some 1) ∧ render 1 = normalized "00000000001"
      ∧ ¬ IsNormal "00000000001" ∧ parse "1@0@0" = .error (.malformedRowId "1@0@0")
      ∧ parse (render 9223372036854775807) = .ok (some 9223372036854775807)
      ∧ parse (render nil) = .error (.malformedRowId (render nil)) := by
  obtain ⟨-, -, -, hback, hagain⟩ := parse_classifies
  have hread : parse "00000000001" = .ok (some 1) := by rfl
  obtain ⟨hwritten, hnormal⟩ := hagain _ _ hread
  exact ⟨hread, hwritten, hnormal.not.mp (by decide), by rfl, (hback _).trans (if_pos (by decide)),
    (hback _).trans (if_neg (by decide))⟩

end ColumnBridge.RowId
