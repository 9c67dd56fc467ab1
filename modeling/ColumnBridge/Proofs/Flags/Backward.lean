import ColumnBridge.Sortedness
import Mathlib.Tactic

/-!
A tracker looks back at rows that went by, and at no others.

* `SortTracker.observe_congr`: of a comparison only what it says about the compared row counts;
* `SortTracker.comparedRow_lt`: the compared row is one of the rows that went by;
* `SortTracker.ofList_append`: a list with one more row at its end is watched as the list is, and then the
  row is compared with the rows of the list.
-/

namespace ColumnBridge.SortTracker

variable {α : Type} {isNil : α → Bool} {compare : α → α → Ordering}

/-! ### The compared row -/

lemma orderToPrevious_congr {t : SortTracker} {nil : Bool} {f g : ℕ → Ordering}
    (h : ∀ row ∈ t.comparedRow nil, f row = g row) :
    t.orderToPrevious nil f = t.orderToPrevious nil g := by
  rw [comparedRow] at h
  rw [orderToPrevious, orderToPrevious]
  cases hprev : t.previous with
  | none => rfl
  | some p =>
    obtain ⟨row, previousNil⟩ := p
    rw [hprev] at h
    cases previousNil with
    | true => rfl
    | false =>
      cases nil with
      | true => rfl
      | false => exact h row rfl

/-- Of a comparison only what it says about the compared row counts. -/
lemma observe_congr {t : SortTracker} {nil : Bool} {f g : ℕ → Ordering} (row : ℕ)
    (h : ∀ earlier ∈ t.comparedRow nil, f earlier = g earlier) :
    t.observe row nil f = t.observe row nil g := by
  rw [observe, observe, orderToPrevious_congr h]

lemma previous_observe (t : SortTracker) (row : ℕ) (nil : Bool) (f : ℕ → Ordering) :
    (t.observe row nil f).previous = if t.leavesOut nil then t.previous else some (row, nil) := by
  rw [observe]
  split_ifs <;> rfl

/-- A compared row is the previous one, and it is not nil. -/
lemma comparedRow_eq_some_iff {t : SortTracker} {nil : Bool} {row : ℕ} :
    t.comparedRow nil = some row ↔ t.previous = some (row, false) ∧ nil = false := by
  rw [comparedRow]
  rcases t.previous with _ | ⟨earlier, _ | _⟩ <;> cases nil <;> simp

/-! ### Rows that went by -/

lemma foldl_take_concat (all : Array α) (first : List α) (x : α) (t : SortTracker) :
    (first ++ [x]).zipIdx.foldl (take isNil compare all) t
      = (first.zipIdx.foldl (take isNil compare all) t).take isNil compare all
          (x, first.length) := by
  rw [List.zipIdx_append, List.foldl_append, Nat.zero_add]
  rfl

/-- The previous row is one of those that went by. -/
lemma previous_lt (ordering : NullOrdering) (all : Array α) (rows : List α) {p : ℕ × Bool}
    (hp : (rows.zipIdx.foldl (take isNil compare all) (.start ordering)).previous = some p) :
    p.1 < rows.length := by
  induction rows using List.reverseRecOn with
  | nil => cases hp
  | append_singleton rows x ih =>
    rw [foldl_take_concat, take, previous_observe] at hp
    rw [List.length_append, List.length_singleton]
    split_ifs at hp
    · exact Nat.lt_succ_of_lt (ih hp)
    · cases hp
      exact Nat.lt_succ_self _

/-- The compared row is one of those that went by. -/
lemma comparedRow_lt (ordering : NullOrdering) (rows : List α) {nil : Bool} {row : ℕ}
    (h : (ofList ordering isNil compare rows).comparedRow nil = some row) : row < rows.length :=
  previous_lt ordering rows.toArray rows (comparedRow_eq_some_iff.mp h).1

/-- At an earlier row more rows make no difference to a comparison. -/
lemma compareWithRow_append {first : List α} (more : List α) (x : α) {row : ℕ}
    (h : row < first.length) :
    compareWithRow (first ++ more).toArray compare x row
      = compareWithRow first.toArray compare x row := by
  simp only [compareWithRow, List.getElem?_toArray, List.getElem?_append_left h]

/-- One more row is compared with those in front of it, whatever stands behind it. -/
lemma foldl_take_next {ordering : NullOrdering} {first more : List α} {x : α}
    (h : first.zipIdx.foldl (take isNil compare (first ++ x :: more).toArray) (.start ordering)
      = ofList ordering isNil compare first) :
    (first ++ [x]).zipIdx.foldl (take isNil compare (first ++ x :: more).toArray) (.start ordering)
      = (ofList ordering isNil compare first).observe first.length (isNil x)
          (compareWithRow first.toArray compare x) := by
  rw [foldl_take_concat, h, take]
  exact observe_congr _ fun row hrow => compareWithRow_append _ _ (comparedRow_lt ordering first hrow)

/-- The rows behind the first ones do not tell about the first ones. -/
lemma foldl_take_append (ordering : NullOrdering) (first more : List α) :
    first.zipIdx.foldl (take isNil compare (first ++ more).toArray) (.start ordering)
      = ofList ordering isNil compare first := by
  induction first using List.reverseRecOn generalizing more with
  | nil => rfl
  | append_singleton first x ih =>
    rw [← List.append_cons, foldl_take_next (ih (x :: more))]
    exact (foldl_take_next (ih [x])).symm

/-- A list with one more row at its end is watched as the list is; then the row is compared with the rows
of the list. -/
lemma ofList_append (ordering : NullOrdering) (first : List α) (x : α) :
    ofList ordering isNil compare (first ++ [x])
      = (ofList ordering isNil compare first).observe first.length (isNil x)
          (compareWithRow first.toArray compare x) :=
  foldl_take_next (foldl_take_append ordering first [x])

end ColumnBridge.SortTracker
