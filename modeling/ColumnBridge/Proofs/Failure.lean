import ColumnBridge.Error
import Mathlib.Data.List.Forall2
import Mathlib.Tactic

/-!
Steps that can fail, taken apart.

* `map_eq_ok`, `map_eq_error`, `mapError_eq_ok`, `bind_eq_ok`: what a step and its continuation gave,
  and `eq_error_of_forall`: when a step fails in one way;
* `mapM_eq_ok_iff`: a step over a list succeeds exactly if it does on every element, with the results in
  the same places, which `exists_getElem?_of_forall₂` looks up, and `exists_mapM_iff` says when it does;
* `mapM_range_eq_ok_iff`, `exists_mapM_range_iff`: the same for the first numbers;
* `StopsAt`: where a step over a list fails, and `mapM_eq_error_iff`, with what;
* `Halt.lift_eq_ok`, `Halt.unlessOverflow_eq_ok`: the same for results that an overflow may take.
-/

namespace ColumnBridge

variable {ε α β : Type}

lemma map_eq_ok {r : Except ε α} {f : α → β} {b : β} :
    r.map f = .ok b ↔ ∃ a, r = .ok a ∧ f a = b := by
  constructor
  · intro h
    rcases r with e | a
    · cases h
    · exact ⟨a, rfl, Except.ok.inj h⟩
  · rintro ⟨a, rfl, rfl⟩
    rfl

lemma map_eq_error {r : Except ε α} {f : α → β} {e : ε} : r.map f = .error e ↔ r = .error e := by
  cases r with
  | ok a => exact iff_of_false nofun nofun
  | error e' => rw [Except.map, Except.error.injEq, Except.error.injEq]

/-- A failure by another name is no other result. -/
lemma mapError_eq_ok {ε' : Type} {r : Except ε α} {f : ε → ε'} {a : α} :
    r.mapError f = .ok a ↔ r = .ok a := by
  cases r with
  | ok b => rw [Except.mapError, Except.ok.injEq, Except.ok.injEq]
  | error e => exact iff_of_false nofun nofun

namespace Halt

lemma lift_eq_ok {r : Except ε α} {a : α} : lift r = .ok a ↔ r = .ok a := mapError_eq_ok

lemma lift_ok_bind {a : α} {f : α → Except (Halt ε) β} : (lift (.ok a) >>= f) = f a := rfl

/-- What has failures alone does not overflow. -/
lemma lift_ne_overflow (r : Except ε α) : lift r ≠ .error .overflow := by
  cases r with
  | ok a => exact nofun
  | error e => exact nofun

lemma unlessOverflow_eq_ok {r : Option α} {a : α} :
    (unlessOverflow r : Except (Halt ε) α) = .ok a ↔ r = some a := by
  cases r with
  | some b => rw [unlessOverflow, Except.ok.injEq, Option.some.injEq]
  | none => exact iff_of_false nofun nofun

lemma unlessOverflow_eq_overflow {r : Option α} :
    (unlessOverflow r : Except (Halt ε) α) = .error .overflow ↔ r = none := by
  cases r with
  | some a => exact iff_of_false nofun nofun
  | none => exact iff_of_true rfl rfl

end Halt

/-- A result that can only be one failure is that failure. -/
lemma eq_error_of_forall {r : Except ε α} {failure : ε} (hok : ¬ ∃ a, r = .ok a)
    (herror : ∀ e, r = .error e → e = failure) : r = .error failure := by
  cases r with
  | error e => rw [herror e rfl]
  | ok a => exact absurd ⟨a, rfl⟩ hok

/-- Results that fail alike succeed alike. -/
lemma exists_ok_congr {r : Except ε α} {s : Except ε β}
    (h : ∀ failure, r = .error failure ↔ s = .error failure) :
    (∃ a, r = .ok a) ↔ ∃ b, s = .ok b := by
  cases r with
  | error e =>
    rw [(h e).mp rfl]
    exact iff_of_false nofun nofun
  | ok a =>
    cases s with
    | error e => cases (h e).mpr rfl
    | ok b => exact iff_of_true ⟨a, rfl⟩ ⟨b, rfl⟩

lemma bind_eq_ok {r : Except ε α} {f : α → Except ε β} {b : β} :
    (r >>= f) = .ok b ↔ ∃ a, r = .ok a ∧ f a = .ok b := by
  constructor
  · intro h
    rcases r with e | a
    · cases h
    · exact ⟨a, rfl, h⟩
  · rintro ⟨a, rfl, hb⟩
    exact hb

/-- A step over a list gives exactly the results of its elements. -/
lemma mapM_eq_ok_iff {f : α → Except ε β} {as : List α} {bs : List β} :
    as.mapM f = .ok bs ↔ List.Forall₂ (fun a b => f a = .ok b) as bs := by
  induction as generalizing bs with
  | nil =>
    rw [List.mapM_nil]
    cases bs with
    | nil => simp [pure, Except.pure]
    | cons b bs => simp [pure, Except.pure]
  | cons a as ih =>
    rw [List.mapM_cons, bind_eq_ok]
    constructor
    · rintro ⟨b, hb, hrest⟩
      obtain ⟨bs', hbs', hpure⟩ := bind_eq_ok.mp hrest
      cases hpure
      exact .cons hb (ih.mp hbs')
    · intro h
      cases h with
      | cons hb hbs =>
        exact ⟨_, hb, bind_eq_ok.mpr ⟨_, ih.mpr hbs, rfl⟩⟩

/-- A step over a list succeeds exactly if it does on every element. -/
lemma exists_mapM_iff {f : α → Except ε β} {as : List α} :
    (∃ bs, as.mapM f = .ok bs) ↔ ∀ a ∈ as, ∃ b, f a = .ok b := by
  simp only [mapM_eq_ok_iff]
  induction as with
  | nil => exact iff_of_true ⟨[], .nil⟩ nofun
  | cons a as ih =>
    rw [List.forall_mem_cons, ← ih]
    constructor
    · rintro ⟨_, h⟩
      cases h with
      | cons hfirst hrest => exact ⟨⟨_, hfirst⟩, _, hrest⟩
    · rintro ⟨⟨b, hb⟩, bs, hbs⟩
      exact ⟨b :: bs, .cons hb hbs⟩

/-- A step over a list stops at an element: it succeeds on those in front, fails on this one, and `rest`
stands behind it. -/
def StopsAt (f : α → Except ε β) (as : List α) (failure : ε) (rest : List α) : Prop :=
  ∃ before a, as = before ++ a :: rest ∧ (∀ x ∈ before, ∃ b, f x = .ok b) ∧ f a = .error failure

section StopsAt

variable {f : α → Except ε β} {a : α} {as rest : List α} {failure : ε}

lemma not_stopsAt_nil : ¬ StopsAt f [] failure rest := by
  rintro ⟨before, a, hsplit, -⟩
  exact List.append_ne_nil_of_right_ne_nil before (List.cons_ne_nil a rest) hsplit.symm

lemma stopsAt_cons_of_error {first : ε} (h : f a = .error first) :
    StopsAt f (a :: as) failure rest ↔ first = failure ∧ as = rest := by
  constructor
  · rintro ⟨before, x, hsplit, hbefore, hx⟩
    cases before with
    | nil =>
      obtain ⟨rfl, rfl⟩ := List.cons_eq_cons.mp hsplit
      exact ⟨Except.error.inj (h.symm.trans hx), rfl⟩
    | cons y before =>
      obtain ⟨rfl, -⟩ := List.cons_eq_cons.mp hsplit
      obtain ⟨b, hb⟩ := hbefore a List.mem_cons_self
      cases h.symm.trans hb
  · rintro ⟨rfl, rfl⟩
    exact ⟨[], a, rfl, nofun, h⟩

lemma stopsAt_cons_of_ok {b : β} (h : f a = .ok b) :
    StopsAt f (a :: as) failure rest ↔ StopsAt f as failure rest := by
  constructor
  · rintro ⟨before, x, hsplit, hbefore, hx⟩
    cases before with
    | nil =>
      obtain ⟨rfl, rfl⟩ := List.cons_eq_cons.mp hsplit
      cases h.symm.trans hx
    | cons y before =>
      obtain ⟨rfl, rfl⟩ := List.cons_eq_cons.mp hsplit
      exact ⟨before, x, rfl, fun z hz => hbefore z (List.mem_cons_of_mem _ hz), hx⟩
  · rintro ⟨before, x, rfl, hbefore, hx⟩
    exact ⟨a :: before, x, rfl, List.forall_mem_cons.mpr ⟨⟨b, h⟩, hbefore⟩, hx⟩

/-- Steps that fail alike stop alike. -/
lemma stopsAt_congr {γ : Type} {g : α → Except ε γ}
    (h : ∀ a failure, f a = .error failure ↔ g a = .error failure) :
    StopsAt f as failure rest ↔ StopsAt g as failure rest := by
  simp only [StopsAt, exists_ok_congr (h _), h]

/-- On one element a step stops where it fails. -/
lemma exists_stopsAt_singleton_iff : (∃ rest, StopsAt f [a] failure rest) ↔ f a = .error failure := by
  cases ha : f a with
  | error own =>
    simp only [stopsAt_cons_of_error ha, Except.error.injEq]
    exact ⟨fun ⟨_, h, _⟩ => h, fun h => ⟨[], h, rfl⟩⟩
  | ok b =>
    simp only [stopsAt_cons_of_ok ha]
    exact iff_of_false (fun ⟨_, h⟩ => not_stopsAt_nil h) nofun

/-- A step over a list fails exactly if it stops at an element, and with the failure of that one. -/
lemma mapM_eq_error_iff : as.mapM f = .error failure ↔ ∃ rest, StopsAt f as failure rest := by
  induction as with
  | nil => exact iff_of_false nofun fun ⟨_, h⟩ => not_stopsAt_nil h
  | cons a as ih =>
    rw [List.mapM_cons]
    cases ha : f a with
    | error first =>
      simp only [stopsAt_cons_of_error ha]
      exact ⟨fun h => ⟨as, Except.error.inj h, rfl⟩, fun ⟨_, h, _⟩ => congrArg Except.error h⟩
    | ok b =>
      simp only [stopsAt_cons_of_ok ha, ← ih]
      cases has : as.mapM f with
      | error e => exact Iff.rfl
      | ok bs => exact iff_of_false nofun nofun

end StopsAt

/-- Lists that are related element by element are related at every place. -/
lemma exists_getElem?_of_forall₂ {R : α → β → Prop} {as : List α} {bs : List β}
    (h : List.Forall₂ R as bs) {i : ℕ} {a : α} (hi : as[i]? = some a) :
    ∃ b, bs[i]? = some b ∧ R a b := by
  induction h generalizing i with
  | nil => cases hi
  | @cons a' b' as bs hab _ ih =>
    cases i with
    | zero =>
      cases hi
      exact ⟨b', rfl, hab⟩
    | succ i => exact ih hi

/-- A step over the first numbers gives a result for each of them. -/
lemma mapM_range_eq_ok_iff {f : ℕ → Except ε β} {n : ℕ} {bs : List β} :
    (List.range n).mapM f = .ok bs ↔
      bs.length = n ∧ ∀ (i : ℕ) (b : β), bs[i]? = some b → f i = .ok b := by
  rw [mapM_eq_ok_iff]
  constructor
  · intro h
    refine ⟨by rw [← h.length_eq, List.length_range], ?_⟩
    intro i b hi
    obtain ⟨hlt, rfl⟩ := List.getElem?_eq_some_iff.mp hi
    have hget := h.get (i := i) (by rw [h.length_eq]; exact hlt) hlt
    rwa [List.get_eq_getElem, List.getElem_range] at hget
  · rintro ⟨hlength, h⟩
    refine List.forall₂_of_length_eq_of_get (by rw [hlength, List.length_range]) ?_
    intro i _ hlt
    rw [List.get_eq_getElem, List.getElem_range]
    exact h i _ (List.getElem?_eq_getElem hlt)

/-- A step over the first numbers succeeds exactly if it does on every one of them. -/
lemma exists_mapM_range_iff {f : ℕ → Except ε β} {n : ℕ} :
    (∃ bs, (List.range n).mapM f = .ok bs) ↔ ∀ i < n, ∃ b, f i = .ok b := by
  constructor
  · rintro ⟨bs, h⟩ i hi
    obtain ⟨hlength, hall⟩ := mapM_range_eq_ok_iff.mp h
    exact ⟨_, hall i _ (List.getElem?_eq_getElem (hlength ▸ hi))⟩
  · intro h
    choose b hb using h
    refine ⟨List.ofFn fun i : Fin n => b i i.isLt, mapM_range_eq_ok_iff.mpr ⟨List.length_ofFn, ?_⟩⟩
    intro i x hx
    obtain ⟨hlt, rfl⟩ := List.getElem?_eq_some_iff.mp hx
    rw [List.getElem_ofFn]
    exact hb i _

end ColumnBridge
