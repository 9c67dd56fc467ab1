import ColumnBridge.Proofs.Engine.Handles
import ColumnBridge.Proofs.Engine.References
import ColumnBridge.Proofs.Session.Bookkeeping

/-!
The columns that an engine in memory keeps, over any calls.

* `MemoryEngine.Distinct.run`: outputs and columns are filed once, and no output has a column twice;
* `MemoryEngine.get_results_step`, `MemoryEngine.not_cleaned_of_contains`: an output changes by its own
  cleaning up only, after which it does not come back;
* `MemoryEngine.Complete.run`: every column of an output is there, and `MemoryEngine.consistent_run` for all
  of this at once;
* `MemoryEngine.contains_cleanup_iff`: a column outlasts its output exactly if somebody holds it then, and
  `MemoryEngine.Stray.run`: a column without an output stays, whoever gives references back;
* `MemoryEngine.contains_run_iff`: together, which columns there are after a run.
-/

namespace ColumnBridge

namespace MemoryEngine

variable {e e' : MemoryEngine} {r : ResultId} {key : ColumnId} {held : HeldColumn}

/-! ### Entries with different keys -/

/-- No output and no column is filed twice, and no output has a column twice. -/
structure Distinct (e : MemoryEngine) : Prop where
  results_nodup : (e.results.entries.map Prod.fst).Nodup
  columns_nodup : (e.columns.entries.map Prod.fst).Nodup
  ids_nodup : ∀ r ids, e.results.get r = some ids → ids.Nodup

/-- What is inserted replaces what was under its key. -/
lemma nodup_keys_insert {κ α : Type} [DecidableEq κ] {l : Ledger κ α}
    (h : (l.entries.map Prod.fst).Nodup) (key : κ) (value : α) :
    ((l.insert key value).entries.map Prod.fst).Nodup := by
  rw [Ledger.insert, List.map_append, Ledger.keys_erase]
  refine List.nodup_append.mpr ⟨h.filter _, List.nodup_singleton _, ?_⟩
  intro other hother new hnew
  obtain rfl := List.mem_singleton.mp hnew
  simpa using (List.mem_filter.mp hother).2

lemma nodup_keys_holdColumns {columns : Ledger ColumnId HeldColumn}
    (h : (columns.entries.map Prod.fst).Nodup) (id : ColumnId) (cs : List ScriptedColumn) :
    ((holdColumns columns id cs).entries.map Prod.fst).Nodup := by
  induction cs generalizing columns id with
  | nil => exact h
  | cons c cs ih => exact ih (nodup_keys_insert h id _) (id + 1)

namespace Distinct

lemma fresh (startupError : Option String) : Distinct { startupError } where
  results_nodup := .nil
  columns_nodup := .nil
  ids_nodup r ids h := by simp [Ledger.get, Ledger.empty] at h

lemma of_quiet (h : e.Distinct) (hq : Quiet e e') : e'.Distinct where
  results_nodup := hq.results_eq ▸ h.results_nodup
  columns_nodup := hq.columns_eq ▸ h.columns_nodup
  ids_nodup := hq.results_eq ▸ h.ids_nodup

lemma modifyColumn (h : e.Distinct) (key : ColumnId) (f : HeldColumn → HeldColumn) :
    Distinct { e with columns := e.columns.modify key f } where
  results_nodup := h.results_nodup
  columns_nodup := (e.columns.keys_modify key f).symm ▸ h.columns_nodup
  ids_nodup := h.ids_nodup

lemma afterQuery (h : e.Distinct) (result : ScriptedResult) : (e.afterQuery result).Distinct where
  results_nodup := nodup_keys_insert h.results_nodup _ _
  columns_nodup := nodup_keys_holdColumns h.columns_nodup _ _
  ids_nodup r ids hr := by
    rcases get_results_afterQuery hr with ⟨-, rfl⟩ | hr
    · rw [output, map_id_describe, map_fst_heldColumns]
      exact List.nodup_range'
    · exact h.ids_nodup r ids hr

lemma cleanedUp (h : e.Distinct) (r : ResultId) (ids : List ColumnId) : (e.cleanedUp r ids).Distinct where
  results_nodup := h.results_nodup.sublist (List.filter_sublist.map _)
  columns_nodup := h.columns_nodup.sublist (List.filter_sublist.map _)
  ids_nodup other ids hother := h.ids_nodup other ids (Ledger.get_erase_eq_some_iff.mp hother).2

/-- **One call.**  Every call keeps the entries apart. -/
theorem step (h : e.Distinct) (call : Call) : (e.step call).Distinct := by
  have heffect := effect_step e call
  generalize e.issued call = ids at heffect
  generalize e.step call = e' at heffect
  cases heffect with
  | quiet hq => exact h.of_quiet hq
  | session => exact ⟨h.results_nodup, h.columns_nodup, h.ids_nodup⟩
  | output id sql result => exact h.afterQuery result
  | missed id => exact ⟨h.results_nodup, h.columns_nodup, h.ids_nodup⟩
  | cleaned id ids => exact h.cleanedUp id ids
  | fixed id hq => exact (h.of_quiet hq).modifyColumn id _
  | unfixed id => exact h.modifyColumn id _

/-- **A run.**  So does every run. -/
theorem run (h : e.Distinct) (calls : List Call) : (e.run calls).Distinct := by
  induction calls generalizing e with
  | nil => exact h
  | cons call calls ih => exact ih (h.step call)

end Distinct

/-! ### Outputs that are there -/

/-- An output changes by its own cleaning up only. -/
lemma get_results_step (hr : r ≤ e.lastHandle) {call : Call} (hcall : call ≠ .cleanupResult r) :
    (e.step call).results.get r = e.results.get r := by
  have heffect := effect_step e call
  generalize e.issued call = ids at heffect
  generalize e.step call = e' at heffect
  cases heffect with
  | quiet hq => rw [hq.results_eq]
  | session => rfl
  | output id sql result =>
    exact Ledger.get_insert_of_ne e.results (Nat.ne_of_lt (Nat.lt_succ_of_le hr)) _
  | missed id => rfl
  | cleaned id ids => exact Ledger.get_erase_of_ne _ fun heq => hcall (heq ▸ rfl)
  | fixed id hq => exact congrArg (Ledger.get · r) hq.results_eq
  | unfixed id => rfl

lemma get_results_cleanup (e : MemoryEngine) (r : ResultId) :
    (e.step (.cleanupResult r)).results.get r = none := by
  cases hget : e.results.get r with
  | none =>
    have hmissed : e.step (.cleanupResult r) = { e with cleanups := e.cleanups + 1 } :=
      congrArg Prod.snd (cleanupResult_of_none hget)
    rw [hmissed]
    exact hget
  | some ids =>
    rw [step_cleanup_of_get hget]
    exact Ledger.get_erase_self ..

/-- Numbers that are given out stay given out. -/
lemma lastHandle_le_run (e : MemoryEngine) (calls : List Call) :
    e.lastHandle ≤ (e.run calls).lastHandle := by
  induction calls generalizing e with
  | nil => exact le_rfl
  | cons call calls ih =>
    have hlast := (effect_step e call).issued_eq.2
    exact le_trans (hlast ▸ Nat.le_add_right ..) (ih (e.step call))

lemma get_results_run (hr : r ≤ e.lastHandle) {calls : List Call} (hcalls : .cleanupResult r ∉ calls) :
    (e.run calls).results.get r = e.results.get r := by
  induction calls generalizing e with
  | nil => rfl
  | cons call calls ih =>
    rw [List.mem_cons, not_or] at hcalls
    have hrest := ih (hr.trans (lastHandle_le_run e [call])) hcalls.2
    exact hrest.trans (get_results_step hr (Ne.symm hcalls.1))

/-- An output that is not there does not come back. -/
lemma get_results_run_of_none (hr : r ≤ e.lastHandle) (h : e.results.get r = none) (calls : List Call) :
    (e.run calls).results.get r = none := by
  induction calls generalizing e with
  | nil => exact h
  | cons call calls ih =>
    refine ih (hr.trans (lastHandle_le_run e [call])) ?_
    by_cases hcall : call = .cleanupResult r
    · rw [hcall]
      exact get_results_cleanup e r
    · exact (get_results_step hr hcall).trans h

/-- An output that was there and still is was not cleaned up. -/
lemma not_cleaned_of_contains (hr : r ≤ e.lastHandle) {calls : List Call}
    (h : (e.run calls).results.contains r = true) : .cleanupResult r ∉ calls := by
  intro hmem
  obtain ⟨before, after, rfl⟩ := List.append_of_mem hmem
  have hsplit : e.run (before ++ .cleanupResult r :: after)
      = ((e.run before).step (.cleanupResult r)).run after := run_append ..
  have hlast : r ≤ ((e.run before).step (.cleanupResult r)).lastHandle :=
    hr.trans ((lastHandle_le_run e before).trans (lastHandle_le_run _ [.cleanupResult r]))
  have hgone := get_results_run_of_none hlast (get_results_cleanup _ r) after
  rw [hsplit, Ledger.contains, hgone] at h
  cases h

/-! ### Columns of outputs -/

/-- The columns of a statement are there after it, and nobody holds them. -/
lemma exists_holdsColumn_afterQuery {result : ScriptedResult} {d : ColumnDescription}
    (hd : d ∈ (e.output result).columns) :
    ∃ column, (e.afterQuery result).HoldsColumn (e.output result).id d.id { column } := by
  obtain ⟨i, hi⟩ := List.getElem?_of_mem hd
  have hdescribed := hi
  rw [output, getElem?_describe] at hdescribed
  obtain ⟨c, hc, -⟩ := Option.map_eq_some_iff.mp hdescribed
  exact ⟨c.column, holdsColumn_afterQuery e hc hi⟩

/-- Other columns are as before. -/
lemma get_columns_afterQuery {key : ℕ} (h : key ≤ e.lastHandle) (result : ScriptedResult) :
    (e.afterQuery result).columns.get key = e.columns.get key :=
  get_holdColumns_of_lt (Nat.lt_succ_of_lt (Nat.lt_succ_of_le h)) result.columns

/-- Cleaning up leaves the columns of other outputs. -/
lemma get_filter_isUnheld {columns : Ledger ColumnId HeldColumn} {ids : List ColumnId} (h : key ∉ ids) :
    Ledger.get ⟨columns.entries.filter fun c => !isUnheld ids c⟩ key = columns.get key :=
  Ledger.get_filter fun c _ hc => by
    rw [isUnheld, hc, decide_eq_false h]
    rfl

/-- Every column of an output is there. -/
def Complete (e : MemoryEngine) : Prop :=
  ∀ r ids, e.results.get r = some ids → ∀ key ∈ ids, e.columns.contains key = true

namespace Complete

lemma fresh (startupError : Option String) : Complete { startupError } := fun r ids h => by
  simp [Ledger.get, Ledger.empty] at h

/-- **One call.**  No call takes a column from an output that it leaves. -/
theorem step (hn : e.Numbered) (h : e.Complete) (call : Call) : (e.step call).Complete := by
  have heffect := effect_step e call
  generalize e.issued call = ids at heffect
  generalize e.step call = e' at heffect
  cases heffect with
  | quiet hq => rwa [Complete, hq.results_eq, hq.columns_eq]
  | session => exact h
  | output id sql result =>
    intro r ids hr key hkey
    rcases get_results_afterQuery hr with ⟨-, rfl⟩ | hr
    · obtain ⟨d, hd, rfl⟩ := List.mem_map.mp hkey
      obtain ⟨c, hc⟩ := exists_holdsColumn_afterQuery hd
      exact congrArg Option.isSome hc.get_eq
    · have hsame := get_columns_afterQuery (hn.owned_le r ids hr key hkey) result
      exact (congrArg Option.isSome hsame).trans (h r ids hr key hkey)
  | missed id => exact h
  | cleaned id own hown =>
    intro r ids hr key hkey
    obtain ⟨hne, hbefore⟩ := Ledger.get_erase_eq_some_iff.mp hr
    have hnot : key ∉ own := fun hmem => hne (hn.owner_unique r id ids own hbefore hown key hkey hmem)
    exact (congrArg Option.isSome (get_filter_isUnheld hnot)).trans (h r ids hbefore key hkey)
  | fixed id hq =>
    intro r ids hr key hkey
    rw [Ledger.contains_modify, hq.columns_eq]
    exact h r ids (hq.results_eq ▸ hr) key hkey
  | unfixed id => exact fun r ids hr key hkey => (Ledger.contains_modify ..).trans (h r ids hr key hkey)

/-- **A run.**  So it is after every run. -/
theorem run (hn : e.Numbered) (h : e.Complete) (calls : List Call) : (e.run calls).Complete := by
  induction calls generalizing e with
  | nil => exact h
  | cons call calls ih => exact ih (hn.step call) (h.step hn call)

end Complete

/-- Numbers are in order, entries are apart, and outputs have their columns. -/
structure Consistent (e : MemoryEngine) : Prop where
  numbered : e.Numbered
  distinct : e.Distinct
  complete : e.Complete

/-- So it is in every state that calls lead to. -/
lemma consistent_run (startupError : Option String) (calls : List Call) :
    Consistent (run { startupError } calls) where
  numbered := (Numbered.fresh startupError).run calls
  distinct := (Distinct.fresh startupError).run calls
  complete := (Complete.fresh startupError).run (.fresh startupError) calls

/-! ### Columns without an output -/

/-- A column is there that belongs to no output. -/
structure Stray (e : MemoryEngine) (key : ColumnId) : Prop where
  there : e.columns.contains key = true
  not_owned : ∀ r ids, e.results.get r = some ids → key ∉ ids

/-- Cleaning an output up takes those of its columns that nobody holds. -/
lemma get_cleanedUp (hd : e.Distinct) (r : ResultId) (ids : List ColumnId) (key : ColumnId) :
    (e.cleanedUp r ids).columns.get key
      = if key ∈ ids ∧ e.fixCount key = 0 then none else e.columns.get key := by
  rw [cleanedUp, Ledger.get_filter_of_nodup hd.columns_nodup, fixCount]
  cases e.columns.get key with
  | none => simp
  | some held => by_cases hkey : key ∈ ids <;> by_cases hfixes : held.fixes = 0 <;> simp [isUnheld, *]

/-- A column outlasts its output exactly if somebody holds it. -/
lemma contains_cleanup_iff (hd : e.Distinct) (h : e.HoldsColumn r key held) :
    (e.step (.cleanupResult r)).columns.contains key = true ↔ held.fixes ≠ 0 := by
  obtain ⟨ids, hids, hkey⟩ := h.owned
  rw [step_cleanup_of_get hids, Ledger.contains, get_cleanedUp hd, h.get_eq, h.fixCount_eq]
  simp [hkey]

lemma stray_cleanup (hc : e.Consistent) (h : e.HoldsColumn r key held) (hheld : held.fixes ≠ 0) :
    (e.step (.cleanupResult r)).Stray key := by
  refine ⟨(contains_cleanup_iff hc.distinct h).mpr hheld, fun other ids hother hmem => ?_⟩
  obtain ⟨own, hown, hkey⟩ := h.owned
  rw [step_cleanup_of_get hown] at hother
  obtain ⟨hne, hbefore⟩ := Ledger.get_erase_eq_some_iff.mp hother
  exact hne (hc.numbered.owner_unique other r ids own hbefore hown key hmem hkey)

namespace Stray

/-- **One call.**  No call takes a column without an output away. -/
theorem step (hn : e.Numbered) (h : e.Stray key) (call : Call) : (e.step call).Stray key := by
  have heffect := effect_step e call
  generalize e.issued call = ids at heffect
  generalize e.step call = e' at heffect
  cases heffect with
  | quiet hq => exact ⟨hq.columns_eq ▸ h.there, hq.results_eq ▸ h.not_owned⟩
  | session => exact ⟨h.there, h.not_owned⟩
  | output id sql result =>
    have hle : key ≤ e.lastHandle := hn.inUse_le key (.inr (.inr h.there))
    refine ⟨(congrArg Option.isSome (get_columns_afterQuery hle result)).trans h.there, ?_⟩
    intro r ids hr hmem
    rcases get_results_afterQuery hr with ⟨-, rfl⟩ | hr
    · have hnew := (mem_columns_output.mp hmem).1
      exact absurd (hle.trans (Nat.le_add_right _ 1)) (Nat.not_le.mpr hnew)
    · exact h.not_owned r ids hr hmem
  | missed id => exact ⟨h.there, h.not_owned⟩
  | cleaned id ids hids =>
    have hget : Ledger.get ⟨e.columns.entries.filter fun c => !isUnheld ids c⟩ key = e.columns.get key :=
      get_filter_isUnheld (h.not_owned id ids hids)
    refine ⟨(congrArg Option.isSome hget).trans h.there, fun r own hr => ?_⟩
    exact h.not_owned r own (Ledger.get_erase_eq_some_iff.mp hr).2
  | fixed id hq =>
    refine ⟨(Ledger.contains_modify ..).trans (hq.columns_eq ▸ h.there), ?_⟩
    exact hq.results_eq ▸ h.not_owned
  | unfixed id => exact ⟨(Ledger.contains_modify ..).trans h.there, h.not_owned⟩

/-- **A run.**  Nor does any run. -/
theorem run (hn : e.Numbered) (h : e.Stray key) (calls : List Call) : (e.run calls).Stray key := by
  induction calls generalizing e with
  | nil => exact h
  | cons call calls ih => exact ih (hn.step call) (h.step hn call)

end Stray

/-! ### Which columns there are -/

/-- The columns that a statement describes are there after it, and nobody holds them. -/
lemma exists_holdsColumn_of_query {id : SessionId} {sql : String} {o : QueryOutput}
    (h : (StorageEngine.query id sql e).1 = .ok o) (hkey : key ∈ o.columns.map ColumnDescription.id) :
    ∃ column, (e.step (.query id sql)).HoldsColumn o.id key { column } := by
  obtain ⟨result, rfl, hquery⟩ := exists_query_of_ok h
  obtain ⟨d, hd, rfl⟩ := List.mem_map.mp hkey
  rw [show e.step (.query id sql) = e.afterQuery result from after_eq hquery]
  exact exists_holdsColumn_afterQuery hd

/-- A column that is there after a call was there, or is described by the call. -/
lemma contains_of_step {call : Call} (h : (e.step call).columns.contains key = true) :
    e.columns.contains key = true
      ∨ ∃ id sql o, call = .query id sql ∧ (StorageEngine.query id sql e).1 = .ok o
        ∧ key ∈ o.columns.map ColumnDescription.id := by
  have heffect := effect_step e call
  generalize e.issued call = ids at heffect
  generalize hstep : e.step call = e' at heffect h
  cases heffect with
  | quiet hq => exact .inl (hq.columns_eq ▸ h)
  | session => exact .inl h
  | output id sql result =>
    rcases query_cases e id sql with ⟨error, hquery⟩ | ⟨result', -, hquery⟩
    · exact .inl ((hstep.symm.trans (after_eq hquery)) ▸ h)
    · rw [← hstep, show e.step (.query id sql) = e.afterQuery result' from after_eq hquery] at h
      rcases contains_holdColumns h with hold | hnew
      · exact .inl hold
      · exact .inr ⟨id, sql, e.output result', rfl, congrArg Prod.fst hquery, mem_columns_output.mpr hnew⟩
  | missed id => exact .inl h
  | cleaned id ids => exact .inl (Ledger.contains_of_filter h)
  | fixed id hq => exact .inl (hq.columns_eq ▸ (Ledger.contains_modify ..).symm.trans h)
  | unfixed id => exact .inl ((Ledger.contains_modify ..).symm.trans h)

/-- **Which columns there are.**  After a run, a column is there exactly if a statement described it, and
somebody held it when the output of that was cleaned up, if it was. -/
theorem contains_run_iff (startupError : Option String) (calls : List Call) (key : ColumnId) :
    let new : MemoryEngine := { startupError }
    (new.run calls).columns.contains key = true
      ↔ ∃ earlier id sql later o, calls = earlier ++ .query id sql :: later
        ∧ (StorageEngine.query id sql (new.run earlier)).1 = .ok o
        ∧ key ∈ o.columns.map ColumnDescription.id
        ∧ ∀ middle rest, later = middle ++ .cleanupResult o.id :: rest → .cleanupResult o.id ∉ middle →
          (new.run (earlier ++ .query id sql :: middle)).fixCount key ≠ 0 := by
  intro new
  have hc (calls : List Call) : (new.run calls).Consistent := consistent_run startupError calls
  -- until its output is cleaned up, a described column is there
  have hholds {earlier id sql o middle}
      (hok : (StorageEngine.query id sql (new.run earlier)).1 = .ok o)
      (hkey : key ∈ o.columns.map ColumnDescription.id) (hmiddle : .cleanupResult o.id ∉ middle) :
      ∃ held, (new.run (earlier ++ .query id sql :: middle)).HoldsColumn o.id key held := by
    obtain ⟨column, hquery⟩ := exists_holdsColumn_of_query hok hkey
    rw [run_append]
    exact ⟨_, hquery.run ((hc earlier).numbered.step _) hmiddle⟩
  constructor
  · intro h
    induction calls using List.reverseRecOn with
    | nil => cases h
    | append_singleton calls call ih =>
      have hlast : new.run (calls ++ [call]) = (new.run calls).step call := run_append ..
      rw [hlast] at h
      rcases contains_of_step h with hold | ⟨id, sql, o, rfl, hok, hkey⟩
      · obtain ⟨earlier, id, sql, later, o, rfl, hok, hkey, hheld⟩ := ih hold
        refine ⟨earlier, id, sql, later ++ [call], o, by simp, hok, hkey, fun middle rest hlater hmiddle => ?_⟩
        rcases rest.eq_nil_or_concat with rfl | ⟨rest, last, rfl⟩
        · -- the last call cleans the output up
          obtain ⟨rfl, hcall⟩ := List.append_inj' hlater rfl
          obtain rfl := List.singleton_inj.mp hcall
          obtain ⟨held, hcolumn⟩ := hholds hok hkey hmiddle
          rw [hcolumn.fixCount_eq]
          exact (contains_cleanup_iff (hc _).distinct hcolumn).mp h
        · rw [List.concat_eq_append, ← List.cons_append, ← List.append_assoc] at hlater
          exact hheld middle rest (List.append_inj' hlater rfl).1 hmiddle
      · refine ⟨calls, id, sql, [], o, rfl, hok, hkey, fun middle rest hnil => ?_⟩
        cases middle <;> cases hnil
  · rintro ⟨earlier, id, sql, later, o, rfl, hok, hkey, hheld⟩
    by_cases hclean : .cleanupResult o.id ∈ later
    · obtain ⟨middle, rest, rfl, hmiddle⟩ := List.eq_append_cons_of_mem hclean
      obtain ⟨held, hcolumn⟩ := hholds hok hkey hmiddle
      have hfixes := hcolumn.fixCount_eq ▸ hheld middle rest rfl hmiddle
      have hstray := (stray_cleanup (hc _) hcolumn hfixes).run ((hc _).numbered.step _) rest
      have hlast : new.run (earlier ++ .query id sql :: (middle ++ .cleanupResult o.id :: rest))
          = ((new.run (earlier ++ .query id sql :: middle)).step (.cleanupResult o.id)).run rest := by
        rw [← List.cons_append, ← List.append_assoc, run_append]
        rfl
      rw [hlast]
      exact hstray.there
    · obtain ⟨held, hcolumn⟩ := hholds hok hkey hclean
      exact congrArg Option.isSome hcolumn.get_eq

end MemoryEngine

end ColumnBridge
