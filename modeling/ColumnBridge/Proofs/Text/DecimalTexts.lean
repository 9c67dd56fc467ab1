import ColumnBridge.Proofs.Text.Numerals

/-!
The texts of decimals, and the arithmetic in which they are read.

* `Numeral.Denotes`: the texts and their numbers as a grammar, which knows nothing of how a text is taken
  apart; `Numeral.denotes_iff_reads` says the same by its parts;
* `Numeral.scaled?_eq`: the digits are accumulated in 128 bits before the number is made a 64-bit one, and
  this loses nothing, because an accumulated number only grows;
* `Numeral.parse_language`: what is read, and as which number.
-/

namespace ColumnBridge.Numeral

/-! ### The language -/

/-- The number of a sign and digits, which are read as one integer. -/
def signed (negative : Bool) (digits : List Char) : ℤ :=
  (if negative then -1 else 1) * Nat.ofDigitChars 10 digits 0

/-- A text denotes a number of units of the last of `scale` places. It has a sign or none, at least one
digit, and at most one point; behind the point there are at most as many digits as places. -/
inductive Denotes (scale : ℕ) : List Char → ℤ → Prop
  /-- Without a point. -/
  | integer {sign digits : List Char} {negative : Bool} (hsign : Sign sign negative)
      (hne : digits ≠ []) (hdigits : ∀ c ∈ digits, c.isDigit = true) :
      Denotes scale (sign ++ digits) (signed negative digits * 10 ^ scale)
  /-- With a point, before or behind which there may be nothing, but not both. -/
  | point {sign whole fraction : List Char} {negative : Bool} (hsign : Sign sign negative)
      (hne : whole ++ fraction ≠ []) (hdigits : ∀ c ∈ whole ++ fraction, c.isDigit = true)
      (hplaces : fraction.length ≤ scale) :
      Denotes scale (sign ++ (whole ++ '.' :: fraction))
        (signed negative (whole ++ fraction) * 10 ^ (scale - fraction.length))

/-- The parts of a text denote a number of units of the last of `scale` places. -/
structure Reads (n : Numeral) (scale : ℕ) (number : ℤ) : Prop where
  ne_nil : n.digits ≠ []
  isDigit : ∀ c ∈ n.digits, c.isDigit = true
  length_le : n.fraction.length ≤ scale
  number_eq : number = n.value * 10 ^ (scale - n.fraction.length)

lemma value_eq (n : Numeral) : n.value = signed n.negative n.digits := by
  rw [value, signed]
  split_ifs <;> ring

/-- A sign that is taken off a text stands in front of the rest. -/
lemma exists_sign (text : List Char) :
    ∃ sign, Sign sign (splitSign text).1 ∧ text = sign ++ (splitSign text).2 := by
  rw [splitSign.eq_def]
  split
  · exact ⟨['-'], .minus, rfl⟩
  · exact ⟨['+'], .plus, rfl⟩
  · exact ⟨[], .none, rfl⟩

/-- What is left behind the characters in front of the first point begins with it. -/
lemma dropWhile_point (text : List Char) :
    text.dropWhile (· != '.') = []
      ∨ text.dropWhile (· != '.') = '.' :: (text.dropWhile (· != '.')).drop 1 := by
  induction text with
  | nil => exact .inl rfl
  | cons c text ih =>
    by_cases hc : c = '.'
    · subst hc
      exact .inr rfl
    · have hpoint : (c != '.') = true := bne_iff_ne.mpr hc
      simp only [List.dropWhile_cons, hpoint, if_true]
      exact ih

/-- A text is put together again from its sign, its parts and the point, if it has one. -/
lemma exists_parts (text : List Char) :
    ∃ sign rest, Sign sign (ofChars text).negative ∧ text = sign ++ ((ofChars text).whole ++ rest)
      ∧ (rest = [] ∧ (ofChars text).fraction = [] ∨ rest = '.' :: (ofChars text).fraction) := by
  obtain ⟨sign, hsign, htext⟩ := exists_sign text
  have hbody : (ofChars text).whole ++ (splitSign text).2.dropWhile (· != '.')
      = (splitSign text).2 :=
    List.takeWhile_append_dropWhile
  refine ⟨sign, _, hsign, by rw [hbody]; exact htext, ?_⟩
  rcases dropWhile_point (splitSign text).2 with hnone | hpoint
  · exact .inl ⟨hnone, congrArg (List.drop 1) hnone⟩
  · exact .inr hpoint

/-- A text denotes what its parts denote. -/
lemma denotes_iff_reads {scale : ℕ} {text : List Char} {number : ℤ} :
    Denotes scale text number ↔ (ofChars text).Reads scale number := by
  constructor
  · intro h
    cases h with
    | @integer sign digits negative hsign hne hdigits =>
      have hparts := ofChars_append hsign hdigits (.inl rfl)
      rw [List.append_nil] at hparts
      rw [hparts]
      exact ⟨by simpa [Numeral.digits] using hne, by simpa [Numeral.digits] using hdigits,
        Nat.zero_le _, by simp [value_eq, Numeral.digits]⟩
    | @point sign whole fraction negative hsign hne hdigits hplaces =>
      have hwhole : ∀ c ∈ whole, c.isDigit = true := fun c hc =>
        hdigits c (List.mem_append_left _ hc)
      have hfraction : ∀ c ∈ fraction, c.isDigit = true := fun c hc =>
        hdigits c (List.mem_append_right _ hc)
      rw [ofChars_append hsign hwhole (.inr ⟨fraction, rfl, hfraction⟩)]
      exact ⟨hne, hdigits, hplaces, by rw [value_eq]; rfl⟩
  · rintro ⟨hne, hdigits, hplaces, rfl⟩
    obtain ⟨sign, rest, hsign, htext, hrest⟩ := exists_parts text
    rw [value_eq]
    generalize ofChars text = n at *
    obtain ⟨negative, whole, fraction⟩ := n
    rcases hrest with ⟨rfl, hnone⟩ | rfl
    · obtain rfl : fraction = [] := hnone
      simp only [Numeral.digits, List.append_nil] at *
      rw [htext]
      exact .integer hsign hne hdigits
    · rw [htext]
      exact .point hsign hne hdigits hplaces

/-! ### What is read -/

/-- Exactly what denotes a 64-bit integer is read. -/
lemma parse_eq_ok_iff {input : String} {scale : ℕ} {v : Int64} :
    parse input scale = .ok v ↔ Denotes scale input.toList v.toInt := by
  rw [denotes_iff_reads, parse]
  dsimp only
  generalize ofChars input.toList = n
  split_ifs with hempty hdigits hplaces
  · exact iff_of_false nofun fun h => h.ne_nil (List.isEmpty_iff.mp hempty)
  · refine iff_of_false nofun fun h => ?_
    rw [List.all_eq_true.mpr h.isDigit] at hdigits
    cases hdigits
  · exact iff_of_false nofun fun h => absurd h.length_le (not_le.mpr hplaces)
  · have hreads : n.Reads scale v.toInt ↔ v.toInt = n.value * 10 ^ (scale - n.fraction.length) :=
      ⟨fun h => h.number_eq, fun h => ⟨by simpa using hempty, by simpa using hdigits,
        not_lt.mp hplaces, h⟩⟩
    have hstored : IntWidth.w64.ofInt? (n.value * 10 ^ (scale - n.fraction.length)) = some v
        ↔ v.toInt = n.value * 10 ^ (scale - n.fraction.length) := IntWidth.ofInt?_eq_some
    rw [hreads, ← hstored]
    cases IntWidth.w64.ofInt? (n.value * 10 ^ (scale - n.fraction.length)) with
    | none => simp
    | some w => simp

/-- Whatever is refused is refused as a malformed decimal. -/
lemma exists_message_of_parse {input : String} {scale : ℕ} {e : MarshalError}
    (h : parse input scale = .error e) : ∃ message, e = .malformedDecimal input message := by
  rw [parse] at h
  dsimp only at h
  split_ifs at h
  · exact ⟨_, (Except.error.inj h).symm⟩
  · exact ⟨_, (Except.error.inj h).symm⟩
  · exact ⟨_, (Except.error.inj h).symm⟩
  · split at h
    · cases h
    · exact ⟨_, (Except.error.inj h).symm⟩

/-! ### Digits in 128 bits -/

/-- The result of a step, if it is a 128-bit integer. -/
def wide (n : ℤ) : Option ℤ := if -2 ^ 127 ≤ n ∧ n < 2 ^ 127 then some n else none

/-- A number with one more digit, none if a step overflows. -/
def appendDigit? (n : ℤ) (c : Char) : Option ℤ := do
  let tens ← wide (n * 10)
  wide (tens + (c.toNat - '0'.toNat : ℕ))

/-- A number with as many zeros at its end as a range has places, none if a step overflows. -/
def appendZeros? (places : List ℕ) (n : ℤ) : Option ℤ := places.foldlM (fun n _ => wide (n * 10)) n

/-- The number of units that the parts of a text denote, none if a step overflows 128 bits or the number
64. The places that are not written are those from the number of fraction digits to the scale. -/
def scaled? (n : Numeral) (scale : ℕ) : Option Int64 := do
  let written ← n.digits.foldlM appendDigit? 0
  let magnitude ← appendZeros? (List.range' n.fraction.length (scale - n.fraction.length)) written
  IntWidth.w64.ofInt? (if n.negative then -magnitude else magnitude)

/-- Read a text as `Numeral.parse` does, with its digits accumulated in 128 bits. -/
def parseWide (input : String) (scale : ℕ) : Except MarshalError Int64 :=
  let n := ofChars input.toList
  let refuse (message : String) := Except.error (MarshalError.malformedDecimal input message)
  if n.digits.isEmpty then refuse "no digits"
  else if !n.digits.all Char.isDigit then refuse "unexpected character"
  else if scale < n.fraction.length then refuse s!"more than {scale} fraction digits"
  else
    match n.scaled? scale with
    | some v => .ok v
    | none => refuse "out of range"

section Steps

variable {m total : ℕ}

lemma wide_of_lt (h : m < 2 ^ 127) : wide m = some (m : ℤ) := by
  have hcast : (m : ℤ) < 2 ^ 127 := by exact_mod_cast h
  exact if_pos ⟨by omega, hcast⟩

lemma wide_of_le (h : 2 ^ 127 ≤ m) : wide m = none := by
  have hcast : (2 : ℤ) ^ 127 ≤ m := by exact_mod_cast h
  exact if_neg fun hin => absurd hin.2 (not_lt.mpr hcast)

/-- A step that overflows is no loss if what is reached in the end is no smaller. -/
lemma wide_bind {next : ℤ → Option ℤ} (hle : m ≤ total) (hnext : m < 2 ^ 127 → next m = wide total) :
    (wide m >>= next) = wide total := by
  rcases Nat.lt_or_ge m (2 ^ 127) with hm | hm
  · rw [wide_of_lt hm]
    exact hnext hm
  · rw [wide_of_le hm, wide_of_le (hm.trans hle)]
    rfl

lemma appendDigit?_eq (m : ℕ) (c : Char) :
    appendDigit? m c = wide (10 * m + (c.toNat - '0'.toNat) : ℕ) := by
  have htens : (m : ℤ) * 10 = (10 * m : ℕ) := by
    push_cast
    ring
  rw [appendDigit?, htens]
  refine wide_bind (Nat.le_add_right ..) fun _ => ?_
  rw [← Nat.cast_add]

/-- Digits are accumulated exactly as far as their number is a 128-bit integer. -/
lemma foldlM_appendDigit? (cs : List Char) (hm : m < 2 ^ 127) :
    cs.foldlM appendDigit? (m : ℤ) = wide (Nat.ofDigitChars 10 cs m) := by
  induction cs generalizing m with
  | nil => exact (wide_of_lt hm).symm
  | cons c cs ih =>
    rw [List.foldlM_cons, appendDigit?_eq, Nat.ofDigitChars_cons]
    refine wide_bind ?_ ih
    rw [Nat.ofDigitChars_eq_ofDigitChars_zero]
    exact (Nat.le_mul_of_pos_left _ (by positivity)).trans (Nat.le_add_right ..)

/-- So are the zeros at its end. -/
lemma appendZeros?_eq (places : List ℕ) (hm : m < 2 ^ 127) :
    appendZeros? places m = wide (m * 10 ^ places.length : ℕ) := by
  rw [appendZeros?]
  induction places generalizing m with
  | nil =>
    rw [List.length_nil, pow_zero, mul_one]
    exact (wide_of_lt hm).symm
  | cons place places ih =>
    have hten : (m : ℤ) * 10 = (m * 10 : ℕ) := by push_cast; rfl
    have hmore : m * 10 ^ (place :: places).length = m * 10 * 10 ^ places.length := by
      rw [List.length_cons, pow_succ']
      ring
    rw [List.foldlM_cons, hten, hmore]
    exact wide_bind (Nat.le_mul_of_pos_right _ (by positivity)) ih

end Steps

/-- In 128 bits the number of the parts of a text is found wherever it is a 64-bit integer. -/
lemma scaled?_eq (n : Numeral) (scale : ℕ) :
    n.scaled? scale = IntWidth.w64.ofInt? (n.value * 10 ^ (scale - n.fraction.length)) := by
  obtain ⟨magnitude, hmagnitude⟩ : ∃ magnitude,
      magnitude = Nat.ofDigitChars 10 n.digits 0 * 10 ^ (scale - n.fraction.length) := ⟨_, rfl⟩
  have hvalue : n.value * 10 ^ (scale - n.fraction.length)
      = if n.negative then -(magnitude : ℤ) else magnitude := by
    rw [value, hmagnitude]
    push_cast
    split_ifs <;> ring
  have hsteps : (n.digits.foldlM appendDigit? 0
        >>= appendZeros? (List.range' n.fraction.length (scale - n.fraction.length)))
      = wide magnitude := by
    have hdigits := foldlM_appendDigit? n.digits (m := 0) (by positivity)
    rw [Nat.cast_zero] at hdigits
    rw [hdigits, hmagnitude]
    refine wide_bind (Nat.le_mul_of_pos_right _ (by positivity)) fun hm => ?_
    rw [appendZeros?_eq _ hm, List.length_range']
  rw [scaled?, ← bind_assoc, hsteps, hvalue]
  rcases Nat.lt_or_ge magnitude (2 ^ 127) with hm | hm
  · rw [wide_of_lt hm]
    rfl
  · rw [wide_of_le hm, eq_comm]
    refine IntWidth.ofInt?_eq_none.mpr fun hrange => ?_
    simp only [IntWidth.InRange, IntWidth.least, IntWidth.bits] at hrange
    split_ifs at hrange <;> omega

/-- Digits accumulated in 128 bits are read as digits of any number. -/
lemma parseWide_eq (input : String) (scale : ℕ) : parseWide input scale = parse input scale := by
  rw [parseWide]
  dsimp only
  rw [scaled?_eq]
  rfl

/-- **The language of decimals.**  A text is read exactly if it is a sign or none, digits, and at most one
point with no more digits behind it than places, and if its number is a 64-bit integer; it is read as that
number.  Every other text is refused as a malformed decimal.  Accumulating the digits in 128 bits makes no
difference, however many there are. -/
theorem parse_language (input : String) (scale : ℕ) :
    (∀ v : Int64, parse input scale = .ok v ↔ Denotes scale input.toList v.toInt)
      ∧ ((¬ ∃ v : Int64, Denotes scale input.toList v.toInt)
          ↔ ∃ message, parse input scale = .error (.malformedDecimal input message))
      ∧ parseWide input scale = parse input scale := by
  refine ⟨fun v => parse_eq_ok_iff, ?_, parseWide_eq input scale⟩
  simp only [← parse_eq_ok_iff]
  cases h : parse input scale with
  | ok v => exact iff_of_false (fun hnone => hnone ⟨v, rfl⟩) nofun
  | error e =>
    obtain ⟨message, rfl⟩ := exists_message_of_parse h
    exact iff_of_true nofun ⟨message, rfl⟩

end ColumnBridge.Numeral
