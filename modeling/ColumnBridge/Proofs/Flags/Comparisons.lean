import ColumnBridge.Proofs.Flags.Backward

/-!
The comparisons that a tracker asks for.

Whether a comparison is asked for, and with which earlier row, is decided by what is nil, never by how
values compare.

* `SortTracker.observeM`: taking in a row with a comparison that may do more than answer, and
  `SortTracker.observeM_eq`: it is done once, with the compared row, or not at all;
* `SortTracker.asked`: the rows that a comparison is asked about, as it notes them down;
* `SortTracker.Remembers`: the row that a tracker remembers, by what was nil; `SortTracker.Remembers.observe`
  keeps it for one more row and `SortTracker.remembers_watch` for a whole list;
* `NullOrdering.LooksAt`: the earlier row that the next value is compared with under a policy, and
  `SortTracker.Remembers.asked_eq_singleton_iff`: a comparison is asked about it;
* `ColumnFlags.isBelow_watch_append`: flags that are cleared stay so.
-/

namespace ColumnBridge

/-- The earlier row that the next value is compared with, where `nils` tells which rows are nil: the last row
or, where nil takes part in no comparison, the last one that is not nil. -/
def NullOrdering.LooksAt (ordering : NullOrdering) (nils : List Bool) (earlier : ℕ) : Prop :=
  nils[earlier]? = some false ∧ match ordering with
    | .first => earlier + 1 = nils.length
    | .skip => ∀ row, earlier < row → row < nils.length → nils[row]? = some true

/-- There is such a row if the last one is not nil or, where nil takes part in no comparison, if any is not
nil. -/
lemma NullOrdering.exists_looksAt_iff (ordering : NullOrdering) (nils : List Bool) :
    (∃ earlier, ordering.LooksAt nils earlier) ↔ match ordering with
      | .first => 0 < nils.length ∧ nils[nils.length - 1]? = some false
      | .skip => ∃ earlier < nils.length, nils[earlier]? = some false := by
  cases ordering with
  | first =>
    constructor
    · rintro ⟨earlier, hvalue, hlast⟩
      rw [← hlast, Nat.add_sub_cancel]
      exact ⟨earlier.succ_pos, hvalue⟩
    · rintro ⟨hpos, hvalue⟩
      exact ⟨_, hvalue, Nat.sub_add_cancel hpos⟩
  | skip =>
    constructor
    · rintro ⟨earlier, hvalue, -⟩
      exact ⟨earlier, (List.getElem?_eq_some_iff.mp hvalue).1, hvalue⟩
    · rintro ⟨earlier, hlt, hvalue⟩
      have hlatest := Nat.findGreatest_spec (P := fun row => nils[row]? = some false) hlt.le hvalue
      refine ⟨_, hlatest, fun row hrow hlast => ?_⟩
      have hnot := Nat.findGreatest_is_greatest hrow hlast.le
      rw [List.getElem?_eq_getElem hlast, Option.some.injEq] at hnot ⊢
      exact Bool.eq_true_of_not_eq_false hnot

namespace SortTracker

variable {ordering : NullOrdering} {t : SortTracker} {nils : List Bool}

/-! ### Comparisons that do more than answer -/

section Effects

variable {m : Type → Type} [Monad m]

/-- Take in the next row with a comparison that may do more than answer. -/
def observeM (t : SortTracker) (row : ℕ) (isNil : Bool) (compareWith : ℕ → m Ordering) : m SortTracker :=
  if t.leavesOut isNil then return { t with hasNil := true }
  else do
    let order ← match t.previous with
      | none => pure .eq
      | some (_, true) => pure (if isNil then .eq else .gt)
      | some (previous, false) => if isNil then pure .lt else compareWith previous
    return { t with
      hasNil := t.hasNil || isNil
      sorted := t.sorted && order != .lt
      reverseSorted := t.reverseSorted && order != .gt
      previous := some (row, isNil) }

/-- A comparison is done once, with the compared row, or not at all. -/
lemma observeM_eq [LawfulMonad m] (t : SortTracker) (row : ℕ) (isNil : Bool) (compareWith : ℕ → m Ordering) :
    t.observeM row isNil compareWith = match t.comparedRow isNil with
      | none => pure (t.observe row isNil fun _ => .eq)
      | some earlier => (fun order => t.observe row isNil fun _ => order) <$> compareWith earlier := by
  rw [observeM, comparedRow]
  simp only [observe, orderToPrevious]
  by_cases hleft : t.leavesOut isNil = true
  · -- a row that is left out is nil, and no nil is compared
    have hnil : isNil = true := (Bool.and_eq_true_iff.mp hleft).1
    rw [hnil] at hleft ⊢
    rcases t.previous with _ | ⟨_, _ | _⟩ <;> simp [hleft]
  · rcases t.previous with _ | ⟨_, _ | _⟩ <;> cases isNil <;> simp [hleft]

end Effects

/-- A comparison that notes down which rows it is asked about. -/
def noting (answer : ℕ → Ordering) (earlier : ℕ) : StateM (List ℕ) Ordering := do
  modify (· ++ [earlier])
  return answer earlier

/-- The rows that a comparison is asked about when the next row is taken in. -/
def asked (t : SortTracker) (row : ℕ) (isNil : Bool) (answer : ℕ → Ordering) : List ℕ :=
  ((t.observeM row isNil (noting answer)).run []).2

/-- A comparison that takes notes does not change what is known, and notes the compared row. -/
lemma run_observeM_noting (t : SortTracker) (row : ℕ) (isNil : Bool) (answer : ℕ → Ordering) :
    (t.observeM row isNil (noting answer)).run []
      = (t.observe row isNil answer, (t.comparedRow isNil).toList) := by
  rw [observeM_eq]
  cases hrow : t.comparedRow isNil with
  | none =>
    have hsame : t.observe row isNil answer = t.observe row isNil fun _ => .eq :=
      observe_congr row fun earlier hearlier => absurd (hrow.symm.trans hearlier) nofun
    rw [hsame]
    rfl
  | some earlier =>
    have hsame : t.observe row isNil answer = t.observe row isNil fun _ => answer earlier :=
      observe_congr row fun other hother => by rw [Option.some.inj (hrow.symm.trans hother)]
    rw [hsame]
    rfl

lemma asked_eq (t : SortTracker) (row : ℕ) (isNil : Bool) (answer : ℕ → Ordering) :
    t.asked row isNil answer = (t.comparedRow isNil).toList := by
  rw [asked, run_observeM_noting]

/-! ### The row that is remembered -/

/-- A tracker remembers the last row that takes part in comparisons, where `nils` tells which rows are
nil. -/
structure Remembers (ordering : NullOrdering) (nils : List Bool) (t : SortTracker) : Prop where
  ordering_eq : t.ordering = ordering
  previous_iff : ∀ row nil, t.previous = some (row, nil)
    ↔ nils[row]? = some nil ∧ (ordering = .skip → nil = false)
      ∧ ∀ later, row < later → later < nils.length → ordering = .skip ∧ nils[later]? = some true

namespace Remembers

lemma start (ordering : NullOrdering) : Remembers ordering [] (.start ordering) where
  ordering_eq := rfl
  previous_iff _ _ := iff_of_false nofun fun h => nomatch h.1

/-- **One step.**  However the next row compares, a tracker remembers the last row. -/
theorem observe (h : t.Remembers ordering nils) (isNil : Bool) (f : ℕ → Ordering) :
    (t.observe nils.length isNil f).Remembers ordering (nils ++ [isNil]) where
  ordering_eq := by
    rw [SortTracker.observe]
    split_ifs <;> exact h.ordering_eq
  previous_iff row nil := by
    have hold := h.previous_iff row nil
    rw [previous_observe, leavesOut, h.ordering_eq]
    split_ifs with hleft
    · -- the next row is a nil that takes part in no comparison, so that the row before it stays the last one
      rw [hold]
      grind
    · grind

/-- The compared row is the earlier row that the policy looks at. -/
lemma comparedRow_eq_some_iff (h : t.Remembers ordering nils) {isNil : Bool} {earlier : ℕ} :
    t.comparedRow isNil = some earlier ↔ isNil = false ∧ ordering.LooksAt nils earlier := by
  rw [SortTracker.comparedRow_eq_some_iff, h.previous_iff, and_comm]
  refine and_congr_right fun _ => and_congr_right fun hvalue => ?_
  have hlt := (List.getElem?_eq_some_iff.mp hvalue).1
  cases ordering with
  | first =>
    -- nothing stands behind the last row
    constructor
    · rintro ⟨-, hlast⟩
      by_contra hne
      have hbehind := hlast (earlier + 1) earlier.lt_succ_self (by omega)
      cases hbehind.1
    · intro hlast
      exact ⟨nofun, fun later hlater hlen => by omega⟩
  | skip => simp

/-- A comparison is asked about the earlier row that the policy looks at. -/
lemma asked_eq_singleton_iff (h : t.Remembers ordering nils) (row : ℕ) (isNil : Bool) (answer : ℕ → Ordering)
    {earlier : ℕ} :
    t.asked row isNil answer = [earlier] ↔ isNil = false ∧ ordering.LooksAt nils earlier := by
  rw [asked_eq, ← h.comparedRow_eq_some_iff]
  cases t.comparedRow isNil <;> simp

/-- A comparison is asked for if the next row is not nil and there is a row to look at. -/
lemma asked_ne_nil_iff (h : t.Remembers ordering nils) (row : ℕ) (isNil : Bool) (answer : ℕ → Ordering) :
    t.asked row isNil answer ≠ [] ↔ isNil = false ∧ ∃ earlier, ordering.LooksAt nils earlier := by
  simp only [← exists_and_left, ← h.comparedRow_eq_some_iff]
  rw [asked_eq]
  cases t.comparedRow isNil <;> simp

/-- Only a row that the policy looks at is asked about. -/
lemma looksAt_of_mem_asked (h : t.Remembers ordering nils) {row : ℕ} {isNil : Bool} {answer : ℕ → Ordering}
    {earlier : ℕ} (hasked : earlier ∈ t.asked row isNil answer) : ordering.LooksAt nils earlier := by
  rw [asked_eq, Option.mem_toList] at hasked
  exact (h.comparedRow_eq_some_iff.mp hasked).2

end Remembers

/-! ### A list of rows -/

/-- What a tracker knows after some rows, of which `nils` tells which are nil; `answer` says how a row
compares with an earlier one. -/
def watch (ordering : NullOrdering) (answer : ℕ → ℕ → Ordering) (nils : List Bool) : SortTracker :=
  nils.zipIdx.foldl (fun t x => t.observe x.2 x.1 (answer x.2)) (start ordering)

variable (answer : ℕ → ℕ → Ordering)

lemma watch_append_singleton (nils : List Bool) (isNil : Bool) :
    watch ordering answer (nils ++ [isNil])
      = (watch ordering answer nils).observe nils.length isNil (answer nils.length) := by
  rw [watch, List.zipIdx_append, List.foldl_append, Nat.zero_add]
  rfl

/-- **A run.**  However the rows compare, a tracker remembers the last one. -/
theorem remembers_watch (ordering : NullOrdering) (nils : List Bool) :
    (watch ordering answer nils).Remembers ordering nils := by
  induction nils using List.reverseRecOn with
  | nil => exact .start ordering
  | append_singleton nils isNil ih =>
    rw [watch_append_singleton]
    exact ih.observe isNil (answer nils.length)

end SortTracker

/-! ### Flags that are cleared -/

namespace ColumnFlags

/-- Of the flags that start set, no more are set than are in others. -/
structure IsBelow (later earlier : ColumnFlags) : Prop where
  sorted : earlier.sorted = false → later.sorted = false
  reverseSorted : earlier.reverseSorted = false → later.reverseSorted = false
  nonNil : earlier.nonNil = false → later.nonNil = false

lemma IsBelow.refl (flags : ColumnFlags) : flags.IsBelow flags := ⟨id, id, id⟩

lemma IsBelow.trans {last later earlier : ColumnFlags} (h : last.IsBelow later) (h' : later.IsBelow earlier) :
    last.IsBelow earlier where
  sorted := h.sorted ∘ h'.sorted
  reverseSorted := h.reverseSorted ∘ h'.reverseSorted
  nonNil := h.nonNil ∘ h'.nonNil

/-- **One step.**  Taking in a row sets no flag again. -/
theorem isBelow_observe (t : SortTracker) (row : ℕ) (isNil : Bool) (f : ℕ → Ordering) :
    (t.observe row isNil f).flags.IsBelow t.flags := by
  rw [SortTracker.observe]
  split_ifs
  · exact ⟨id, id, fun _ => rfl⟩
  · refine ⟨fun h => ?_, fun h => ?_, fun h => ?_⟩ <;>
      simp_all [SortTracker.flags]

/-- **A run.**  Neither do more rows. -/
theorem isBelow_watch_append (ordering : NullOrdering) (answer : ℕ → ℕ → Ordering) (nils more : List Bool) :
    (SortTracker.watch ordering answer (nils ++ more)).flags.IsBelow
      (SortTracker.watch ordering answer nils).flags := by
  induction more using List.reverseRecOn with
  | nil =>
    rw [List.append_nil]
    exact .refl _
  | append_singleton more isNil ih =>
    rw [← List.append_assoc, SortTracker.watch_append_singleton]
    exact (isBelow_observe ..).trans ih

end ColumnFlags

end ColumnBridge
