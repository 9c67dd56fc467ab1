import ColumnBridge.Sortedness
import Mathlib.Tactic

/-!
Watching neighbours tells about all pairs.

A list of rows is watched with a test for nil and a comparison of values; `ValueOrder` says that the
comparison belongs to a transitive order of the rows that are not nil.

* `NullOrdering.InOrder`: an earlier and a later row are in order under a policy;
* `NullOrdering.partakers`: the rows that take part in comparisons;
* `Tracks`: what a tracker knows after the first rows of a list, and `Tracks.take`, which keeps it when
  the next row goes by;
* `ColumnFlags.sorted_ofList_iff`, `ColumnFlags.reverseSorted_ofList_iff`: the flags of a whole list say
  that every two rows are in order, not only neighbours;
* `ColumnFlags.ofList_map`: rows may be replaced where neither nil nor comparisons change.
-/

namespace ColumnBridge

variable {α : Type} {isNil : α → Bool} {compare : α → α → Ordering} {le : α → α → Prop}

/-- Two rows are in order under a policy, where `le` orders the values of rows: if nil takes part it is
equal to nil and below every value, and otherwise a pair with a nil row is in order. -/
def NullOrdering.InOrder (ordering : NullOrdering) (isNil : α → Bool) (le : α → α → Prop) (x y : α) :
    Prop :=
  match ordering with
  | .first => isNil x = true ∨ (isNil y = false ∧ le x y)
  | .skip => isNil x = true ∨ isNil y = true ∨ le x y

/-- A comparison belongs to a transitive order of the rows that are not nil. -/
structure ValueOrder (isNil : α → Bool) (compare : α → α → Ordering) (le : α → α → Prop) : Prop where
  ne_gt_iff : ∀ {x y : α}, isNil x = false → isNil y = false → (compare x y ≠ .gt ↔ le x y)
  ne_lt_iff : ∀ {x y : α}, isNil x = false → isNil y = false → (compare x y ≠ .lt ↔ le y x)
  trans : ∀ {x y z : α}, le x y → le y z → le x z

namespace NullOrdering

/-- A row takes part in comparisons. -/
def partakes (ordering : NullOrdering) (isNil : α → Bool) (x : α) : Bool :=
  !(isNil x && decide (ordering = .skip))

/-- The rows that take part in comparisons. -/
def partakers (ordering : NullOrdering) (isNil : α → Bool) (rows : List α) : List α :=
  rows.filter (ordering.partakes isNil)

lemma partakers_append (ordering : NullOrdering) (rows : List α) (x : α) :
    ordering.partakers isNil (rows ++ [x])
      = if ordering.partakes isNil x then ordering.partakers isNil rows ++ [x]
        else ordering.partakers isNil rows := by
  rw [partakers]
  rw [List.filter_append, List.filter_singleton]
  cases ordering.partakes isNil x with
  | true => rfl
  | false => exact List.append_nil _

/-- The order in which nil takes part is transitive. -/
lemma inOrder_first_trans (h : ValueOrder isNil compare le) {x y z : α}
    (hxy : NullOrdering.first.InOrder isNil le x y) (hyz : NullOrdering.first.InOrder isNil le y z) :
    NullOrdering.first.InOrder isNil le x z := by
  rcases hxy with hx | ⟨hy, hxy⟩
  · exact .inl hx
  · rcases hyz with hy' | ⟨hz, hyz⟩
    · rw [hy] at hy'
      cases hy'
    · exact .inr ⟨hz, h.trans hxy hyz⟩

/-- Every two rows are in order exactly if every two of those that take part are. -/
lemma pairwise_inOrder_iff (ordering : NullOrdering) (rows : List α) :
    rows.Pairwise (ordering.InOrder isNil le)
      ↔ (ordering.partakers isNil rows).Pairwise (NullOrdering.first.InOrder isNil le) := by
  rw [partakers, List.pairwise_filter]
  cases ordering with
  | first => simp [partakes]
  | skip =>
    refine List.Pairwise.iff ?_
    intro x y
    cases hx : isNil x <;> cases hy : isNil y <;> simp [InOrder, partakes, hx, hy]

/-- The same from the last row to the first. -/
lemma pairwise_inOrder_flip_iff (ordering : NullOrdering) (rows : List α) :
    rows.Pairwise (fun x y => ordering.InOrder isNil le y x)
      ↔ (ordering.partakers isNil rows).Pairwise
          fun x y => NullOrdering.first.InOrder isNil le y x := by
  rw [← List.pairwise_reverse, pairwise_inOrder_iff, partakers, List.filter_reverse,
    List.pairwise_reverse]
  rfl

end NullOrdering

/-- Under a transitive relation one more row is related to all rows if it is related to the last. -/
lemma pairwise_append_singleton_iff {R : α → α → Prop} (hR : ∀ {x y z}, R x y → R y z → R x z)
    (rows : List α) (x : α) :
    (rows ++ [x]).Pairwise R ↔ rows.Pairwise R ∧ ∀ y ∈ rows.getLast?, R y x := by
  induction rows using List.reverseRecOn with
  | nil => simp
  | append_singleton rows last _ =>
    simp only [List.pairwise_append, List.getLast?_concat, Option.mem_some_iff, forall_eq',
      List.mem_append, List.mem_singleton, List.pairwise_singleton, true_and, forall_eq]
    constructor
    · rintro ⟨hrows, hx⟩
      exact ⟨hrows, hx last (.inr rfl)⟩
    · rintro ⟨⟨hrows, hlast⟩, hx⟩
      refine ⟨⟨hrows, hlast⟩, ?_⟩
      rintro y (hy | rfl)
      · exact hR (hlast y hy) hx
      · exact hx

/-! ### The tracker -/

/-- What a tracker knows after the first rows of a list: whether one of them is nil, where the last row
is that takes part in comparisons, and whether those rows are in order. -/
structure Tracks (ordering : NullOrdering) (isNil : α → Bool) (le : α → α → Prop)
    (all first : List α) (t : SortTracker) : Prop where
  ordering_eq : t.ordering = ordering
  hasNil_eq : t.hasNil = first.any isNil
  previous_eq :
    (t.previous = none ∧ (ordering.partakers isNil first).getLast? = none)
      ∨ ∃ row y, t.previous = some (row, isNil y) ∧ all[row]? = some y
          ∧ (ordering.partakers isNil first).getLast? = some y
  sorted_iff :
    t.sorted = true
      ↔ (ordering.partakers isNil first).Pairwise (NullOrdering.first.InOrder isNil le)
  reverseSorted_iff :
    t.reverseSorted = true
      ↔ (ordering.partakers isNil first).Pairwise fun x y => NullOrdering.first.InOrder isNil le y x

namespace Tracks

variable {ordering : NullOrdering} {all first : List α} {t : SortTracker}

/-- Nothing is known before the first row. -/
lemma start (ordering : NullOrdering) (all : List α) :
    Tracks ordering isNil le all [] (.start ordering) where
  ordering_eq := rfl
  hasNil_eq := rfl
  previous_eq := .inl ⟨rfl, rfl⟩
  sorted_iff := iff_of_true rfl .nil
  reverseSorted_iff := iff_of_true rfl .nil

/-- The tracker leaves out the rows that do not take part. -/
lemma leavesOut_eq (h : Tracks ordering isNil le all first t) (x : α) :
    t.leavesOut (isNil x) = !ordering.partakes isNil x := by
  rw [SortTracker.leavesOut, h.ordering_eq, NullOrdering.partakes, Bool.not_not]

/-- The next row is not below the previous one exactly if the two are in order. -/
lemma order_ne_lt_iff (h : Tracks ordering isNil le all first t)
    (ho : ValueOrder isNil compare le) (x : α) :
    t.orderToPrevious (isNil x) (compareWithRow all.toArray compare x) ≠ .lt
      ↔ ∀ y ∈ (ordering.partakers isNil first).getLast?, NullOrdering.first.InOrder isNil le y x := by
  rcases h.previous_eq with ⟨hprev, hlast⟩ | ⟨row, y, hprev, hrow, hlast⟩
  · simp [SortTracker.orderToPrevious, hprev, hlast]
  · simp only [SortTracker.orderToPrevious, hprev, hlast, Option.mem_some_iff, forall_eq']
    cases hy : isNil y <;> cases hx : isNil x <;>
      simp [NullOrdering.InOrder, compareWithRow, hrow, hx, hy, ho.ne_lt_iff]

/-- It is not above the previous one exactly if the two are in the other order. -/
lemma order_ne_gt_iff (h : Tracks ordering isNil le all first t)
    (ho : ValueOrder isNil compare le) (x : α) :
    t.orderToPrevious (isNil x) (compareWithRow all.toArray compare x) ≠ .gt
      ↔ ∀ y ∈ (ordering.partakers isNil first).getLast?, NullOrdering.first.InOrder isNil le x y := by
  rcases h.previous_eq with ⟨hprev, hlast⟩ | ⟨row, y, hprev, hrow, hlast⟩
  · simp [SortTracker.orderToPrevious, hprev, hlast]
  · simp only [SortTracker.orderToPrevious, hprev, hlast, Option.mem_some_iff, forall_eq']
    cases hy : isNil y <;> cases hx : isNil x <;>
      simp [NullOrdering.InOrder, compareWithRow, hrow, hx, hy, ho.ne_gt_iff]

/-- **One step.**  A tracker that knows about the first rows knows about one more after it went by. -/
theorem take (h : Tracks ordering isNil le all first t) (ho : ValueOrder isNil compare le) {x : α}
    (hx : all[first.length]? = some x) :
    Tracks ordering isNil le all (first ++ [x])
      (t.take isNil compare all.toArray (x, first.length)) := by
  have hany : (first ++ [x]).any isNil = (t.hasNil || isNil x) := by
    rw [List.any_append, h.hasNil_eq, List.any_cons, List.any_nil, Bool.or_false]
  cases hpart : ordering.partakes isNil x with
  | false =>
    -- a row that is left out: only that there is a nil is new
    have hleft : t.leavesOut (isNil x) = true := by
      rw [h.leavesOut_eq, hpart]
      rfl
    have hnil : isNil x = true := (Bool.and_eq_true_iff.mp hleft).1
    have hrows : ordering.partakers isNil (first ++ [x]) = ordering.partakers isNil first := by
      rw [NullOrdering.partakers_append, hpart]
      rfl
    rw [SortTracker.take, SortTracker.observe, if_pos hleft]
    refine ⟨h.ordering_eq, ?_, ?_, ?_, ?_⟩
    · rw [hany, hnil, Bool.or_true]
    · rw [hrows]
      exact h.previous_eq
    · rw [hrows]
      exact h.sorted_iff
    · rw [hrows]
      exact h.reverseSorted_iff
  | true =>
    have hleft : ¬ t.leavesOut (isNil x) = true := by
      rw [h.leavesOut_eq, hpart]
      exact Bool.false_ne_true
    have hrows : ordering.partakers isNil (first ++ [x]) = ordering.partakers isNil first ++ [x] := by
      rw [NullOrdering.partakers_append, hpart]
      rfl
    rw [SortTracker.take, SortTracker.observe, if_neg hleft]
    refine ⟨h.ordering_eq, hany.symm, ?_, ?_, ?_⟩
    · exact .inr ⟨first.length, x, rfl, hx, by rw [hrows, List.getLast?_concat]⟩
    · rw [hrows, pairwise_append_singleton_iff (R := NullOrdering.first.InOrder isNil le)
        (NullOrdering.inOrder_first_trans ho), ← h.sorted_iff, ← h.order_ne_lt_iff ho, ← bne_iff_ne,
        ← Bool.and_eq_true]
    · rw [hrows, pairwise_append_singleton_iff (R := fun x y => NullOrdering.first.InOrder isNil le y x)
        (fun hxy hyz => NullOrdering.inOrder_first_trans ho hyz hxy), ← h.reverseSorted_iff,
        ← h.order_ne_gt_iff ho, ← bne_iff_ne, ← Bool.and_eq_true]

/-- **A whole run.**  After the first rows of a list a tracker knows about them. -/
theorem foldl_take (ordering : NullOrdering) (ho : ValueOrder isNil compare le) (all : List α) :
    ∀ first, first <+: all →
      Tracks ordering isNil le all first
        (first.zipIdx.foldl (SortTracker.take isNil compare all.toArray) (.start ordering)) := by
  intro first
  induction first using List.reverseRecOn with
  | nil =>
    intro _
    exact start ordering all
  | append_singleton first x ih =>
    rintro ⟨rest, rfl⟩
    rw [List.zipIdx_append, List.foldl_append]
    have hx : (first ++ [x] ++ rest)[first.length]? = some x := by
      simp
    have hprefix : first <+: first ++ [x] ++ rest := ⟨[x] ++ rest, by simp⟩
    simpa using (ih hprefix).take ho hx

end Tracks

/-! ### The flags -/

namespace ColumnFlags

variable (ordering : NullOrdering) (rows : List α)

lemma tracks_ofList (ho : ValueOrder isNil compare le) :
    Tracks ordering isNil le rows rows (.ofList ordering isNil compare rows) :=
  Tracks.foldl_take ordering ho rows rows List.prefix_rfl

/-- A list is flagged as nullable exactly if one of its rows is nil. -/
theorem nullable_ofList_iff (ho : ValueOrder isNil compare le) :
    (ofList ordering isNil compare rows).nullable = true ↔ ∃ x ∈ rows, isNil x = true := by
  have h := (tracks_ofList ordering rows ho).hasNil_eq
  rw [ofList, SortTracker.flags, h, List.any_eq_true]

/-- A list is flagged as sorted exactly if every two of its rows are in order. -/
theorem sorted_ofList_iff (ho : ValueOrder isNil compare le) :
    (ofList ordering isNil compare rows).sorted = true
      ↔ rows.Pairwise (ordering.InOrder isNil le) := by
  rw [NullOrdering.pairwise_inOrder_iff]
  exact (tracks_ofList ordering rows ho).sorted_iff

/-- A list is flagged as sorted backwards exactly if every two of its rows are in the other order. -/
theorem reverseSorted_ofList_iff (ho : ValueOrder isNil compare le) :
    (ofList ordering isNil compare rows).reverseSorted = true
      ↔ rows.Pairwise fun x y => ordering.InOrder isNil le y x := by
  rw [NullOrdering.pairwise_inOrder_flip_iff]
  exact (tracks_ofList ordering rows ho).reverseSorted_iff

/-- Rows that are replaced by others which are nil alike and compare alike have the same flags. -/
theorem ofList_map {f : α → α} (hnil : ∀ x, isNil (f x) = isNil x)
    (hcompare : ∀ x y, compare (f x) (f y) = compare x y) :
    ofList ordering isNil compare (rows.map f) = ofList ordering isNil compare rows := by
  have hrow : ∀ (x : α) (row : ℕ), compareWithRow (rows.map f).toArray compare (f x) row
      = compareWithRow rows.toArray compare x row := by
    intro x row
    simp only [compareWithRow, List.getElem?_toArray, List.getElem?_map]
    cases rows[row]? with
    | none => rfl
    | some y => exact hcompare x y
  have htake : ∀ (t : SortTracker) (x : α × ℕ),
      t.take isNil compare (rows.map f).toArray (Prod.map f id x)
        = t.take isNil compare rows.toArray x := by
    intro t x
    simp only [SortTracker.take, Prod.map_fst, Prod.map_snd, id_eq, hnil, funext (hrow x.1)]
  simp only [ofList, SortTracker.ofList, List.zipIdx_map, List.foldl_map, htake]

end ColumnFlags

end ColumnBridge
