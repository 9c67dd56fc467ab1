import ColumnBridge.Proofs.Engine.Kept

/-!
Cleaning an output up and giving its columns back, in any order.

Columns go when their output is cleaned up, and only then.  A column whose last reference is given back
before that goes with its output; one whose last reference is given back after it stays.  The order shows
in nothing else.

* `MemoryEngine.references`: what is to be given back, and `MemoryEngine.releases`: one order to do so;
* `MemoryEngine.released`, `MemoryEngine.run_releases`: the engine that such an order leaves;
* `MemoryEngine.release_inAnyOrder`: what this says about the columns, and which columns there are at all.
-/

namespace ColumnBridge.MemoryEngine

variable {e : MemoryEngine} {r : ResultId} {ids before after : List ColumnId} {key : ColumnId}

/-! ### References that are out -/

/-- The references to some columns that are out, each as often as it is. -/
def references (e : MemoryEngine) (ids : List ColumnId) : List ColumnId :=
  ids.flatMap fun key => List.replicate (e.fixCount key) key

lemma count_references (e : MemoryEngine) (h : ids.Nodup) (key : ColumnId) :
    (e.references ids).count key = if key ∈ ids then e.fixCount key else 0 := by
  induction ids with
  | nil => rfl
  | cons id ids ih =>
    obtain ⟨hid, hids⟩ := List.nodup_cons.mp h
    have hrest : (ids.flatMap fun key => List.replicate (e.fixCount key) key).count key
        = if key ∈ ids then e.fixCount key else 0 := ih hids
    rw [references, List.flatMap_cons, List.count_append, List.count_replicate, hrest]
    by_cases heq : id = key
    · subst heq
      simp [hid]
    · simp [heq, Ne.symm heq]

lemma mem_references : key ∈ e.references ids ↔ key ∈ ids ∧ e.fixCount key ≠ 0 := by
  simp only [references, List.mem_flatMap, List.mem_replicate]
  constructor
  · rintro ⟨id, hid, hne, rfl⟩
    exact ⟨hid, hne⟩
  · rintro ⟨hkey, hne⟩
    exact ⟨key, hkey, hne, rfl⟩

/-! ### Releasing an output -/

/-- Clean an output up with some references given back before and some after. -/
def releases (r : ResultId) (before after : List ColumnId) : List Call :=
  before.map .unfixColumn ++ .cleanupResult r :: after.map .unfixColumn

/-- An engine without an output and without references to its columns, of which those in `late` are left. -/
def released (r : ResultId) (ids late : List ColumnId) (e : MemoryEngine) : MemoryEngine :=
  { e with
    cleanups := e.cleanups + 1
    results := e.results.erase r
    columns := ⟨e.columns.entries.filter fun c => decide (c.1 ∈ ids → c.1 ∈ late)⟩
  }.recount fun key n => if key ∈ ids then 0 else n

/-- What is given back before the clean-up leaves as many references as are given back after it. -/
lemma recount_before (hd : e.Distinct) (hids : e.results.get r = some ids)
    (hall : (before ++ after).Perm (e.references ids)) :
    e.recount (fun key n => n - before.count key)
      = e.recount fun key n => if key ∈ ids then after.count key else n := by
  have hleft {c : ColumnId × HeldColumn} (hc : c ∈ e.columns.entries) :
      c.2.fixes - before.count c.1 = if c.1 ∈ ids then after.count c.1 else c.2.fixes := by
    have hfixes : e.fixCount c.1 = c.2.fixes := by
      rw [fixCount, (Ledger.get_eq_some_iff hd.columns_nodup).mpr hc]
      rfl
    have hcount := hall.count_eq c.1
    rw [List.count_append, e.count_references (hd.ids_nodup r ids hids), hfixes] at hcount
    split_ifs at hcount ⊢ <;> omega
  rw [recount, recount, List.map_congr_left fun c hc => by rw [hleft hc]]

/-- Of columns with new counts the clean-up takes those that nobody holds by these counts. -/
lemma cleanedUp_recount (count : ColumnId → ℕ → ℕ) (r : ResultId) (ids : List ColumnId)
    (e : MemoryEngine) :
    (e.recount count).cleanedUp r ids
      = recount count { e with
          cleanups := e.cleanups + 1
          results := e.results.erase r
          columns := ⟨e.columns.entries.filter fun c =>
            !(decide (c.1 ∈ ids) && count c.1 c.2.fixes == 0)⟩ } := by
  rw [cleanedUp, recount, recount, List.filter_map]
  rfl

/-- **Releasing an output.**  Of the order only this is left: which columns had references after the
clean-up. -/
theorem run_releases (hd : e.Distinct) (hids : e.results.get r = some ids)
    (hall : (before ++ after).Perm (e.references ids)) :
    e.run (releases r before after) = e.released r ids after := by
  have hnone {key : ColumnId} (hkey : key ∉ ids) : after.count key = 0 :=
    List.count_eq_zero.mpr fun hmem =>
      hkey (mem_references.mp (hall.subset (List.mem_append_right before hmem))).1
  have hkept (c : ColumnId × HeldColumn) :
      (!(decide (c.1 ∈ ids) && (if c.1 ∈ ids then after.count c.1 else c.2.fixes) == 0))
        = decide (c.1 ∈ ids → c.1 ∈ after) := by
    rw [Bool.eq_iff_iff]
    by_cases hkey : c.1 ∈ ids <;> simp [hkey, List.count_eq_zero]
  have hzero (key : ColumnId) (n : ℕ) :
      (if key ∈ ids then after.count key else n) - after.count key = if key ∈ ids then 0 else n := by
    by_cases hkey : key ∈ ids
    · simp [hkey]
    · simp [hkey, hnone hkey]
  calc e.run (releases r before after)
      = ((e.run (before.map .unfixColumn)).step (.cleanupResult r)).run (after.map .unfixColumn) :=
        run_append ..
    _ = ((e.recount fun key n => n - before.count key).cleanedUp r ids).recount
          fun key n => n - after.count key := by
        rw [run_unfixColumns, run_unfixColumns, step_cleanup_of_get (e := e.recount _) hids]
    _ = ((e.recount fun key n => if key ∈ ids then after.count key else n).cleanedUp r ids).recount
          fun key n => n - after.count key := by
        rw [recount_before hd hids hall]
    _ = e.released r ids after := by
        rw [cleanedUp_recount, recount_recount, released]
        simp only [hkept, hzero]

/-! ### What is left -/

lemma get_released (hd : e.Distinct) (r : ResultId) (ids late : List ColumnId) (key : ColumnId) :
    (e.released r ids late).columns.get key
      = if key ∈ ids then
          if key ∈ late then (e.columns.get key).map fun c => { c with fixes := 0 } else none
        else e.columns.get key := by
  rw [released, get_recount, Ledger.get_filter_of_nodup hd.columns_nodup]
  cases e.columns.get key with
  | none => simp
  | some held =>
    by_cases hids : key ∈ ids
    · by_cases hlate : key ∈ late <;> simp [hids, hlate, Option.filter]
    · simp [hids]

/-- What is left of a column after its output and all references to it were released: nothing, or a column
without owner and references that can be taken again. -/
structure Forgotten (e last : MemoryEngine) (late : List ColumnId) (key : ColumnId) : Prop where
  not_owned : ∀ r ids, last.results.get r = some ids → key ∉ ids
  fixCount_eq : last.fixCount key = 0
  contains_iff : last.columns.contains key = true ↔ key ∈ late
  fixColumn_eq : ∃ held, e.columns.get key = some held
    ∧ (StorageEngine.fixColumn key last).1
      = if key ∈ late ∧ e.lookupsBeforeFailure ≠ some 0 then .ok held.column
        else .error (noColumn key)

lemma forgotten_released (hc : e.Consistent) (hids : e.results.get r = some ids) (hkey : key ∈ ids)
    (late : List ColumnId) : Forgotten e (e.released r ids late) late key := by
  obtain ⟨held, hheld⟩ := Option.isSome_iff_exists.mp (hc.complete r ids hids key hkey)
  have hget := get_released hc.distinct r ids late key
  rw [if_pos hkey, hheld] at hget
  refine ⟨fun other own hother hmem => ?_, ?_, ?_, held, hheld, ?_⟩
  · obtain ⟨hne, hown⟩ := Ledger.get_erase_eq_some_iff.mp hother
    exact hne (hc.numbered.owner_unique other r own ids hown hids key hmem hkey)
  · rw [fixCount, hget]
    split_ifs <;> rfl
  · rw [Ledger.contains, hget]
    split_ifs with hlate <;> simp [hlate]
  · by_cases hlate : key ∈ late
    · rw [if_pos hlate] at hget
      by_cases hlookups : e.lookupsBeforeFailure = some 0
      · rw [if_neg fun h => h.2 hlookups]
        exact congrArg Prod.fst (fixColumn_of_refused (e := e.released r ids late) hlookups key)
      · rw [if_pos ⟨hlate, hlookups⟩]
        exact congrArg Prod.fst (fixColumn_of_get hget hlookups)
    · rw [if_neg hlate] at hget
      rw [if_neg fun h => hlate h.1]
      exact fixColumn_of_missing hget

/-- Two orders leave the same engine exactly if the same columns have references after the clean-up. -/
lemma released_eq_iff (hc : e.Consistent) (hids : e.results.get r = some ids)
    {late late' : List ColumnId} (hlate : ∀ key ∈ late, key ∈ ids) (hlate' : ∀ key ∈ late', key ∈ ids) :
    e.released r ids late = e.released r ids late' ↔ ∀ key, key ∈ late ↔ key ∈ late' := by
  constructor
  · intro h key
    by_cases hkey : key ∈ ids
    · obtain ⟨held, hheld⟩ := Option.isSome_iff_exists.mp (hc.complete r ids hids key hkey)
      have hget := congrArg (fun e => e.columns.get key) h
      simp only [get_released hc.distinct, if_pos hkey, hheld] at hget
      by_cases hmem : key ∈ late <;> by_cases hmem' : key ∈ late' <;> simp_all
    · exact iff_of_false (fun hmem => hkey (hlate key hmem)) fun hmem => hkey (hlate' key hmem)
  · intro h
    simp only [released, h]

/-- **Cleaning up and giving back, in any order.**  In every state that calls lead to, an output is cleaned
up and all references to its columns are given back, in any order.  The columns whose last reference was
given back before the clean-up are gone, and a later reference to them is refused; the others stay without
an owner and without references, and can be taken again.  Two orders lead to the same state exactly if they
agree on which columns these are.  So a column is there exactly if a statement described it and somebody
held it when the output of that was cleaned up, if it was. -/
theorem release_inAnyOrder (startupError : Option String) (calls : List Call) :
    let new : MemoryEngine := { startupError }
    let e := new.run calls
    (∀ r ids before after, e.results.get r = some ids → (before ++ after).Perm (e.references ids) →
        let last := e.run (releases r before after)
        last = e.released r ids after
          ∧ (∀ before' after', (before' ++ after').Perm (e.references ids) →
              (e.run (releases r before' after') = last ↔ ∀ key, key ∈ after' ↔ key ∈ after))
          ∧ ∀ key ∈ ids, Forgotten e last after key)
      ∧ ∀ key, e.columns.contains key = true
        ↔ ∃ earlier id sql later o, calls = earlier ++ .query id sql :: later
          ∧ (StorageEngine.query id sql (new.run earlier)).1 = .ok o
          ∧ key ∈ o.columns.map ColumnDescription.id
          ∧ ∀ middle rest, later = middle ++ .cleanupResult o.id :: rest → .cleanupResult o.id ∉ middle →
            (new.run (earlier ++ .query id sql :: middle)).fixCount key ≠ 0 := by
  intro new e
  have hc : e.Consistent := consistent_run startupError calls
  refine ⟨fun r ids before after hids hall => ?_, contains_run_iff startupError calls⟩
  have hlate {before after : List ColumnId} (hall : (before ++ after).Perm (e.references ids)) :
      ∀ key ∈ after, key ∈ ids := fun key hkey =>
    (mem_references.mp (hall.subset (List.mem_append_right before hkey))).1
  intro last
  have hlast : last = e.released r ids after := run_releases hc.distinct hids hall
  refine ⟨hlast, fun before' after' hall' => ?_, fun key hkey => ?_⟩
  · rw [hlast, run_releases hc.distinct hids hall']
    exact released_eq_iff hc hids (hlate hall') (hlate hall)
  · rw [hlast]
    exact forgotten_released hc hids hkey after

/-- Of three references one is given back after the clean-up, which its column outlasts. -/
theorem release_inAnyOrder_twoColumns :
    let column : Column := ⟨.int, #[(7 : Int32)], ⟨false, true, true, true⟩, rfl⟩
    let result : ScriptedResult :=
      { kind := .table, columns := [⟨"a", "int", 32, 0, column⟩, ⟨"b", "int", 32, 0, column⟩] }
    let calls : List Call :=
      [.script "q" result, .startup {}, .connect, .query 1 "q", .fixColumn 3, .fixColumn 3, .fixColumn 4]
    let new : MemoryEngine := {}
    let e := new.run calls
    let last := e.run (releases 2 [4, 3] [3])
    e.results.get 2 = some [3, 4]
      ∧ e.references [3, 4] = [3, 3, 4]
      ∧ e.run (releases 2 [3, 4] [3]) = last
      ∧ e.run (releases 2 [3, 3, 4] []) ≠ last
      ∧ last.columns.contains 3 = true
      ∧ last.columns.contains 4 = false := by
  intro column result calls new e last
  have hids : e.results.get 2 = some [3, 4] := by decide +kernel
  have hreferences : e.references [3, 4] = [3, 3, 4] := by decide +kernel
  have hall : ([4, 3] ++ [3] : List ColumnId).Perm (e.references [3, 4]) := by
    rw [hreferences]
    decide
  have hother : ([3, 4] ++ [3] : List ColumnId).Perm (e.references [3, 4]) := by
    rw [hreferences]
    decide
  have hearly : ([3, 3, 4] ++ [] : List ColumnId).Perm (e.references [3, 4]) := by
    rw [hreferences]
    decide
  obtain ⟨-, horder, hforgotten⟩ := (release_inAnyOrder none calls).1 2 [3, 4] [4, 3] [3] hids hall
  refine ⟨hids, hreferences, (horder [3, 4] [3] hother).mpr fun _ => Iff.rfl, fun hsame => ?_, ?_, ?_⟩
  · have h3 := (horder [3, 3, 4] [] hearly).mp hsame 3
    simp at h3
  · exact (hforgotten 3 (by simp)).contains_iff.mpr (by simp)
  · exact Bool.eq_false_iff.mpr fun h => by simpa using (hforgotten 4 (by simp)).contains_iff.mp h

/-- The order shows: a reference that is given back after the clean-up leaves a column that belongs to no
output, that nobody holds, and that can be taken again. -/
theorem release_order_shows :
    let column : Column := ⟨.int, #[(7 : Int32)], ⟨false, true, true, true⟩, rfl⟩
    let result : ScriptedResult := { kind := .table, columns := [⟨"a", "int", 32, 0, column⟩] }
    let new : MemoryEngine := {}
    let e := new.run [.script "q" result, .startup {}, .connect, .query 1 "q", .fixColumn 3]
    let first := e.run [.unfixColumn 3, .cleanupResult 2]
    let last := e.run [.cleanupResult 2, .unfixColumn 3]
    e.results.get 2 = some [3]
      ∧ e.fixCount 3 = 1
      ∧ first.columns.contains 3 = false
      ∧ last.columns.contains 3 = true
      ∧ last.fixCount 3 = 0
      ∧ last.results.entries = []
      ∧ (StorageEngine.fixColumn 3 last).1 = .ok column := by
  exact ⟨by rfl, by rfl, by rfl, by rfl, by rfl, by rfl, by rfl⟩

end ColumnBridge.MemoryEngine
