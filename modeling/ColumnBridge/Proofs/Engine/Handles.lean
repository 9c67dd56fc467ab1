import ColumnBridge.Proofs.Engine.Calls
import ColumnBridge.Proofs.Engine.Outputs

/-!
The numbers that an engine in memory gives out.

* `MemoryEngine.collect_issued_eq`: the numbers that calls give out come one after the other behind those
  that were given out before;
* `MemoryEngine.Numbered`: every number in use was given out, and no two outputs share a column;
  `MemoryEngine.Numbered.step` keeps it at every call;
* `MemoryEngine.HoldsColumn.step`: an output keeps its columns, with their references counted, at every
  call but its own cleaning up;
* `MemoryEngine.handles_distinct_readable`: both over whole runs.
-/

namespace ColumnBridge

namespace MemoryEngine

variable {e e' : MemoryEngine} {r : ResultId} {key : ColumnId} {held : HeldColumn}

/-! ### Numbers that are given out -/

/-- An output and its columns are numbered one after the other. -/
lemma handles_output (e : MemoryEngine) (result : ScriptedResult) :
    (e.output result).handles = List.range' (e.lastHandle + 1) (result.columns.length + 1) := by
  have hcolumns : (e.output result).columns.map ColumnDescription.id
      = List.range' (e.lastHandle + 2) result.columns.length := by
    rw [output, map_id_describe, map_fst_heldColumns]
  rw [QueryOutput.handles, hcolumns, List.range'_succ]
  rfl

/-- A call gives numbers out one after the other, behind those that were given out before. -/
lemma Effect.issued_eq {call : Call} {ids : List ℕ} (h : Effect e call ids e') :
    ids = List.range' (e.lastHandle + 1) ids.length ∧ e'.lastHandle = e.lastHandle + ids.length := by
  cases h with
  | quiet h => exact ⟨rfl, h.handle_eq⟩
  | session => exact ⟨rfl, rfl⟩
  | output id sql result =>
    rw [handles_output, List.length_range']
    have hlast : (e.afterQuery result).lastHandle = e.lastHandle + 1 + result.columns.length := rfl
    exact ⟨rfl, by omega⟩
  | missed | cleaned => exact ⟨rfl, rfl⟩
  | fixed id h => exact ⟨rfl, h.handle_eq⟩
  | unfixed => exact ⟨rfl, rfl⟩

/-- So do some calls. -/
lemma collect_issued_eq (e : MemoryEngine) (calls : List Call) :
    collect issued e calls = List.range' (e.lastHandle + 1) (collect issued e calls).length := by
  induction calls generalizing e with
  | nil => rfl
  | cons call calls ih =>
    obtain ⟨hissued, hlast⟩ := (effect_step e call).issued_eq
    have hrest := ih (e.step call)
    rw [hlast, Nat.add_right_comm] at hrest
    rw [collect, List.length_append, ← List.range'_append_1, ← hissued, ← hrest]

/-- The columns of the outputs of some calls have numbers that were given out there, in that order. -/
lemma columns_sublist_issued (e : MemoryEngine) (calls : List Call) :
    ((collect outputs e calls).flatMap fun o => o.columns.map ColumnDescription.id).Sublist
      (collect issued e calls) := by
  induction calls generalizing e with
  | nil => exact List.Sublist.refl _
  | cons call calls ih =>
    have hcall : ((e.outputs call).flatMap fun o => o.columns.map ColumnDescription.id).Sublist
        (e.issued call) := by
      cases call with
      | query id sql =>
        simp only [outputs, issued, given]
        split
        · rw [List.flatMap_singleton]
          exact List.sublist_cons_self _ _
        · exact List.Sublist.refl _
      | _ => exact List.nil_sublist _
    rw [collect, collect, List.flatMap_append]
    exact hcall.append (ih _)

/-! ### Numbers in use -/

/-- A session, an output or a column has a number. -/
def InUse (e : MemoryEngine) (id : ℕ) : Prop :=
  e.sessions.contains id = true ∨ e.results.contains id = true ∨ e.columns.contains id = true

/-- Every number in use was given out, also those that an output has for its columns, and no two outputs
share a column. -/
structure Numbered (e : MemoryEngine) : Prop where
  inUse_le : ∀ id : ℕ, e.InUse id → id ≤ e.lastHandle
  owned_le : ∀ r ids, e.results.get r = some ids → ∀ key : ℕ, key ∈ ids → key ≤ e.lastHandle
  owner_unique : ∀ r r' ids ids', e.results.get r = some ids → e.results.get r' = some ids' →
    ∀ key : ColumnId, key ∈ ids → key ∈ ids' → r = r'

/-- No number comes into use, and no output is changed. -/
structure Within (e e' : MemoryEngine) : Prop where
  handle_eq : e'.lastHandle = e.lastHandle
  inUse : ∀ id, e'.InUse id → e.InUse id
  owned : ∀ r ids, e'.results.get r = some ids → e.results.get r = some ids

lemma Numbered.of_within (h : e.Numbered) (hw : Within e e') : e'.Numbered where
  inUse_le id hid := hw.handle_eq ▸ h.inUse_le id (hw.inUse id hid)
  owned_le r ids hr := hw.handle_eq ▸ h.owned_le r ids (hw.owned r ids hr)
  owner_unique r r' ids ids' hr hr' :=
    h.owner_unique r r' ids ids' (hw.owned r ids hr) (hw.owned r' ids' hr')

lemma Within.of_quiet (h : Quiet e e') : Within e e' where
  handle_eq := h.handle_eq
  inUse id hid := by
    rw [InUse, h.results_eq, h.columns_eq] at hid
    exact hid.imp (h.session_old id) fun hid => hid
  owned r ids hr := by rwa [h.results_eq] at hr

/-- Changing a column that is there brings no number into use. -/
lemma Within.modifyColumn (h : Within e e') (key : ColumnId) (f : HeldColumn → HeldColumn) :
    Within e { e' with columns := e'.columns.modify key f } where
  handle_eq := h.handle_eq
  inUse id hid := by
    rw [InUse, Ledger.contains_modify] at hid
    exact h.inUse id hid
  owned := h.owned

/-- The columns of a statement come into use with their numbers, and no others do. -/
lemma contains_holdColumns {columns : Ledger ColumnId HeldColumn} {id key : ℕ}
    {cs : List ScriptedColumn} (h : (holdColumns columns id cs).contains key = true) :
    columns.contains key = true ∨ (id ≤ key ∧ key < id + cs.length) := by
  induction cs generalizing columns id with
  | nil => exact .inl h
  | cons c cs ih =>
    rw [List.length_cons]
    rcases ih h with hold | hnew
    · rcases Ledger.contains_insert hold with rfl | hold
      · exact .inr ⟨le_rfl, by omega⟩
      · exact .inl hold
    · exact .inr (by omega)

/-- Other columns are found as before. -/
lemma get_holdColumns_of_lt {columns : Ledger ColumnId HeldColumn} {id key : ColumnId} (h : key < id)
    (cs : List ScriptedColumn) : (holdColumns columns id cs).get key = columns.get key := by
  induction cs generalizing columns id with
  | nil => rfl
  | cons c cs ih =>
    rw [holdColumns, ih (Nat.lt_succ_of_lt h), Ledger.get_insert_of_ne _ (Nat.ne_of_lt h)]

/-- The columns of a statement are found under their numbers, and nobody holds them. -/
lemma get_holdColumns {columns : Ledger ColumnId HeldColumn} {id : ℕ} {cs : List ScriptedColumn}
    {c : ScriptedColumn} {i : ℕ} (h : cs[i]? = some c) :
    (holdColumns columns id cs).get (id + i) = some { column := c.column } := by
  induction cs generalizing columns id i with
  | nil => simp at h
  | cons first cs ih =>
    cases i with
    | zero =>
      rw [List.getElem?_cons_zero, Option.some.injEq] at h
      rw [holdColumns, add_zero, get_holdColumns_of_lt (Nat.lt_succ_self id), Ledger.get_insert_self, h]
    | succ i =>
      rw [List.getElem?_cons_succ] at h
      rw [holdColumns, Nat.add_comm i, ← Nat.add_assoc]
      exact ih h

/-- A column of a statement is described with its number. -/
lemma getElem?_describe (id : ColumnId) (cs : List ScriptedColumn) (i : ℕ) :
    (describe id cs)[i]?
      = cs[i]?.map fun c => ⟨c.name, c.sqlType, c.digits, c.scale, id + i⟩ := by
  induction cs generalizing id i with
  | nil => rfl
  | cons c cs ih =>
    cases i with
    | zero => rfl
    | succ i =>
      rw [describe, List.getElem?_cons_succ, List.getElem?_cons_succ, ih, Nat.add_assoc, Nat.add_comm 1]

/-- The columns of a statement are numbered behind its output. -/
lemma mem_columns_output {result : ScriptedResult} {key : ℕ} :
    key ∈ (e.output result).columns.map ColumnDescription.id
      ↔ e.lastHandle + 2 ≤ key ∧ key < e.lastHandle + 2 + result.columns.length := by
  rw [output, map_id_describe, map_fst_heldColumns]
  exact List.mem_range'_1

/-- An output is that of the statement, or was there before it. -/
lemma get_results_afterQuery {result : ScriptedResult} {ids : List ColumnId}
    (h : (e.afterQuery result).results.get r = some ids) :
    (r = e.lastHandle + 1 ∧ ids = (e.output result).columns.map ColumnDescription.id)
      ∨ e.results.get r = some ids := by
  by_cases heq : r = e.lastHandle + 1
  · refine .inl ⟨heq, ?_⟩
    have hnew : (e.afterQuery result).results.get (e.lastHandle + 1)
        = some ((e.output result).columns.map ColumnDescription.id) := Ledger.get_insert_self ..
    rw [heq, hnew] at h
    exact (Option.some.inj h).symm
  · refine .inr ?_
    rw [← h]
    exact (Ledger.get_insert_of_ne e.results heq _).symm

namespace Numbered

/-- An engine that has given nothing out. -/
lemma fresh (startupError : Option String) : Numbered { startupError } where
  inUse_le id h := by
    rcases h with h | h | h <;> exact absurd h Bool.false_ne_true
  owned_le r ids h := by simp [Ledger.get, Ledger.empty] at h
  owner_unique r r' ids ids' h := by simp [Ledger.get, Ledger.empty] at h

/-- Opening a session. -/
lemma session (h : e.Numbered) :
    Numbered { e with
      lastHandle := e.lastHandle + 1
      sessions := e.sessions.insert (e.lastHandle + 1) {} } where
  inUse_le id hid := by
    rcases hid with hid | hid | hid
    · rcases Ledger.contains_insert hid with rfl | hid
      · exact le_rfl
      · exact Nat.le_succ_of_le (h.inUse_le id (.inl hid))
    · exact Nat.le_succ_of_le (h.inUse_le id (.inr (.inl hid)))
    · exact Nat.le_succ_of_le (h.inUse_le id (.inr (.inr hid)))
  owned_le r ids hr key hkey := Nat.le_succ_of_le (h.owned_le r ids hr key hkey)
  owner_unique := h.owner_unique

/-- A statement: its output and its columns have numbers that no other has. -/
lemma afterQuery (h : e.Numbered) (result : ScriptedResult) : (e.afterQuery result).Numbered := by
  have hlast : (e.afterQuery result).lastHandle = e.lastHandle + 1 + result.columns.length := rfl
  have hids {key : ℕ} := (@mem_columns_output e result key).mp
  have hget {r ids} := @get_results_afterQuery e r result ids
  constructor
  · intro id hid
    rw [hlast]
    rcases hid with hid | hid | hid
    · have hle := h.inUse_le id (.inl hid)
      omega
    · rcases Ledger.contains_insert hid with rfl | hid
      · exact Nat.le_add_right _ _
      · have hle := h.inUse_le id (.inr (.inl hid))
        omega
    · rcases contains_holdColumns hid with hid | hnew
      · have hle := h.inUse_le id (.inr (.inr hid))
        omega
      · have hlt : id < e.lastHandle + 2 + result.columns.length := hnew.2
        omega
  · intro r ids hr key hkey
    rw [hlast]
    rcases hget hr with ⟨-, rfl⟩ | hr
    · have hlt := hids hkey
      omega
    · have hle := h.owned_le r ids hr key hkey
      omega
  · intro r r' ids ids' hr hr' key hkey hkey'
    rcases hget hr with ⟨hnew, rfl⟩ | hr <;> rcases hget hr' with ⟨hnew', rfl⟩ | hr'
    · rw [hnew, hnew']
    · have hlt := hids hkey
      have hle := h.owned_le r' ids' hr' key hkey'
      omega
    · have hlt := hids hkey'
      have hle := h.owned_le r ids hr key hkey
      omega
    · exact h.owner_unique r r' ids ids' hr hr' key hkey hkey'

/-- **One call.**  Every call keeps the numbers in order. -/
theorem step (h : e.Numbered) (call : Call) : (e.step call).Numbered := by
  have heffect := effect_step e call
  generalize e.issued call = ids at heffect
  generalize e.step call = e' at heffect
  cases heffect with
  | quiet hq => exact h.of_within (.of_quiet hq)
  | session => exact h.session
  | output id sql result => exact h.afterQuery result
  | missed id => exact h.of_within ⟨rfl, fun _ hid => hid, fun _ _ hr => hr⟩
  | cleaned id ids hids =>
    refine h.of_within ⟨rfl, fun _ hid => ?_, fun r ids hr => ?_⟩
    · exact hid.imp (fun hid => hid) (Or.imp Ledger.contains_of_filter Ledger.contains_of_filter)
    · by_cases heq : r = id
      · rw [heq, Ledger.get_erase_self] at hr
        exact absurd hr (by simp)
      · rwa [Ledger.get_erase_of_ne _ heq] at hr
  | fixed id hq => exact h.of_within ((Within.of_quiet hq).modifyColumn id _)
  | unfixed id => exact h.of_within ((Within.of_quiet (.refl e)).modifyColumn id _)

/-- **A run.**  So does every run. -/
theorem run (h : e.Numbered) (calls : List Call) : (e.run calls).Numbered := by
  induction calls generalizing e with
  | nil => exact h
  | cons call calls ih => exact ih (h.step call)

/-- No number that a call gives out is in use. -/
lemma not_inUse_of_issued (h : e.Numbered) (call : Call) {id : ℕ} (hid : id ∈ e.issued call) :
    ¬ e.InUse id := by
  intro huse
  rw [(effect_step e call).issued_eq.1] at hid
  have hle := h.inUse_le id huse
  have hge := (List.mem_range'_1.mp hid).1
  omega

end Numbered

/-! ### Outputs that are not cleaned up -/

/-- An output of the engine has a column, with some references. -/
structure HoldsColumn (e : MemoryEngine) (r : ResultId) (key : ColumnId) (held : HeldColumn) : Prop where
  owned : ∃ ids, e.results.get r = some ids ∧ key ∈ ids
  get_eq : e.columns.get key = some held

namespace HoldsColumn

lemma of_quiet (h : e.HoldsColumn r key held) (hq : Quiet e e') : e'.HoldsColumn r key held where
  owned := hq.results_eq ▸ h.owned
  get_eq := hq.columns_eq ▸ h.get_eq

/-- Changing a column changes only that one. -/
lemma modifyColumn (h : e.HoldsColumn r key held) (id : ColumnId) (f : HeldColumn → HeldColumn) :
    HoldsColumn { e with columns := e.columns.modify id f } r key
      (if id = key then f held else held) where
  owned := h.owned
  get_eq := by
    rw [Ledger.get_modify]
    by_cases heq : key = id
    · rw [if_pos heq, if_pos heq.symm, ← heq, h.get_eq]
      rfl
    · rw [if_neg heq, if_neg (Ne.symm heq), h.get_eq]

/-- A statement leaves the columns of other outputs. -/
lemma afterQuery (hn : e.Numbered) (h : e.HoldsColumn r key held) (result : ScriptedResult) :
    (e.afterQuery result).HoldsColumn r key held := by
  obtain ⟨⟨ids, hids, hkey⟩, hget⟩ := h
  have hr : r ≤ e.lastHandle := hn.inUse_le r (.inr (.inl (by rw [Ledger.contains, hids]; rfl)))
  have hle := hn.owned_le r ids hids key hkey
  have hlt : key < (e.output result).id + 1 := Nat.lt_succ_of_lt (Nat.lt_succ_of_le hle)
  refine ⟨⟨ids, ?_, hkey⟩, (get_holdColumns_of_lt hlt _).trans hget⟩
  exact (Ledger.get_insert_of_ne e.results (Nat.ne_of_lt (Nat.lt_succ_of_le hr)) _).trans hids

/-- **One call.**  An output keeps its columns at every call but its own cleaning up, and their references
are counted. -/
theorem step (hn : e.Numbered) (h : e.HoldsColumn r key held) {call : Call}
    (hcall : call ≠ .cleanupResult r) :
    (e.step call).HoldsColumn r key { held with fixes := e.counted key held.fixes call } := by
  have heffect := effect_step e call
  generalize e.issued call = ids at heffect
  generalize e.step call = e' at heffect
  cases heffect with
  | quiet hq hcounted =>
    rw [hcounted]
    exact h.of_quiet hq
  | session => exact ⟨h.owned, h.get_eq⟩
  | output id sql result => exact h.afterQuery hn result
  | missed id => exact ⟨h.owned, h.get_eq⟩
  | cleaned id ids hids =>
    obtain ⟨⟨own, hown, hkey⟩, hget⟩ := h
    have hne : r ≠ id := fun heq => hcall (heq ▸ rfl)
    have hnot : key ∉ ids := fun hmem => hne (hn.owner_unique r id own ids hown hids key hkey hmem)
    refine ⟨⟨own, (Ledger.get_erase_of_ne _ hne).trans hown, hkey⟩, ?_⟩
    refine (Ledger.get_filter fun c _ hc => ?_).trans hget
    rw [isUnheld, hc, decide_eq_false hnot]
    rfl
  | fixed id hq hcounted =>
    have hfixed := (h.of_quiet hq).modifyColumn id fun c => { c with fixes := c.fixes + 1 }
    by_cases heq : id = key
    · subst heq
      rw [if_pos rfl] at hfixed
      rwa [hcounted]
    · rw [if_neg heq] at hfixed
      rwa [counted, if_neg heq]
  | unfixed id =>
    have hunfixed := h.modifyColumn id fun c => { c with fixes := c.fixes - 1 }
    by_cases heq : id = key
    · rw [if_pos heq] at hunfixed
      rwa [counted, if_pos heq]
    · rw [if_neg heq] at hunfixed
      rwa [counted, if_neg heq]

/-- **A run.**  So does every run that does not clean the output up. -/
theorem run (hn : e.Numbered) (h : e.HoldsColumn r key held) {calls : List Call}
    (hcalls : .cleanupResult r ∉ calls) :
    (e.run calls).HoldsColumn r key { held with fixes := tally key e held.fixes calls } := by
  induction calls generalizing e held with
  | nil => exact h
  | cons call calls ih =>
    rw [List.mem_cons, not_or] at hcalls
    obtain ⟨hfirst, hrest⟩ := hcalls
    exact ih (hn.step call) (h.step hn (Ne.symm hfirst)) hrest

end HoldsColumn

/-! ### Whole runs -/

/-- A reference to a column of an output is given, unless it is one that is to be refused. -/
lemma HoldsColumn.fst_fixColumn (h : e.HoldsColumn r key held) :
    (StorageEngine.fixColumn key e).1
      = if e.lookupsBeforeFailure = some 0 then .error (noColumn key) else .ok held.column := by
  have hfix : ∀ {e'}, countLookup key e = (.ok .unit, e') → e'.columns = e.columns →
      (fixColumn key e).1 = .ok held.column := by
    intro e' hcount hcolumns
    rw [fixColumn, bind_apply_of_ok hcount, get_bind_apply, hcolumns, h.get_eq]
    rfl
  cases hlookups : e.lookupsBeforeFailure with
  | none =>
    have hcount : countLookup key e = (.ok .unit, e) := by
      rw [countLookup, get_bind_apply, hlookups]
      rfl
    exact (hfix hcount rfl).trans (if_neg (by simp)).symm
  | some n =>
    cases n with
    | zero =>
      have hcount : countLookup key e
          = (.error (noColumn key), { e with lookupsBeforeFailure := none }) := by
        rw [countLookup, get_bind_apply, hlookups]
        rfl
      exact congrArg Prod.fst (bind_apply_of_error hcount)
    | succ n =>
      have hcount : countLookup key e = (.ok .unit, { e with lookupsBeforeFailure := some n }) := by
        rw [countLookup, get_bind_apply, hlookups]
        rfl
      exact (hfix hcount rfl).trans (if_neg (by simp)).symm

lemma HoldsColumn.fixCount_eq (h : e.HoldsColumn r key held) : e.fixCount key = held.fixes := by
  rw [fixCount, h.get_eq]
  rfl

/-- Every column of a statement is there, and nobody holds it. -/
lemma holdsColumn_afterQuery (e : MemoryEngine) {result : ScriptedResult} {i : ℕ} {c : ScriptedColumn}
    {d : ColumnDescription} (hc : result.columns[i]? = some c)
    (hd : (e.output result).columns[i]? = some d) :
    (e.afterQuery result).HoldsColumn (e.output result).id d.id { column := c.column } := by
  have hid : d.id = e.lastHandle + 2 + i := by
    rw [output, getElem?_describe, hc] at hd
    cases hd
    rfl
  refine ⟨⟨_, Ledger.get_insert_self .., List.mem_map_of_mem (List.mem_of_getElem? hd)⟩, ?_⟩
  rw [hid]
  exact get_holdColumns hc

lemma length_describe (id : ColumnId) (cs : List ScriptedColumn) :
    (describe id cs).length = cs.length := by
  have h := congrArg List.length (map_id_describe id cs)
  rwa [map_fst_heldColumns, List.length_map, List.length_range'] at h

/-- **Numbers are given once, and outputs stay readable.**  Over every run from a new engine, no number
is given out twice, none is given out that a session, an output or a column still has, and no two outputs
share a column.  Of an output that was not cleaned up since its statement, every column has as many
references as were taken since less those given back, and another one is to what the statement was
registered with, unless it is refused on demand. -/
theorem handles_distinct_readable (startupError : Option String) (calls : List Call) :
    let new : MemoryEngine := { startupError }
    (collect issued new calls).Nodup
      ∧ (∀ earlier call later, calls = earlier ++ call :: later →
          ∀ id ∈ (new.run earlier).issued call, ¬ (new.run earlier).InUse id)
      ∧ ((collect outputs new calls).flatMap fun o => o.columns.map ColumnDescription.id).Nodup
      ∧ ∀ earlier id sql later o, calls = earlier ++ .query id sql :: later →
          (StorageEngine.query id sql (new.run earlier)).1 = .ok o → .cleanupResult o.id ∉ later →
          ∃ result, (new.run earlier).scripts.get (Text.trim sql) = some result
            ∧ o.columns.length = result.columns.length
            ∧ ∀ (i : ℕ) (c : ScriptedColumn) (d : ColumnDescription),
              result.columns[i]? = some c → o.columns[i]? = some d →
              (new.run calls).fixCount d.id
                  = tally d.id ((new.run earlier).step (.query id sql)) 0 later
                ∧ (StorageEngine.fixColumn d.id (new.run calls)).1
                  = if (new.run calls).lookupsBeforeFailure = some 0 then .error (noColumn d.id)
                    else .ok c.column := by
  intro new
  have hnew : new.Numbered := .fresh startupError
  have hnodup : (collect issued new calls).Nodup := by
    rw [collect_issued_eq]
    exact List.nodup_range'
  refine ⟨hnodup, ?_, hnodup.sublist (columns_sublist_issued new calls), ?_⟩
  · intro earlier call later _ id hid
    exact (hnew.run earlier).not_inUse_of_issued call hid
  · intro earlier id sql later o hcalls hok hlater
    rcases query_cases (new.run earlier) id sql with ⟨error, hquery⟩ | ⟨result, hscript, hquery⟩
    · exact absurd ((congrArg Prod.fst hquery).symm.trans hok) (by simp)
    · obtain rfl : (new.run earlier).output result = o :=
        Except.ok.inj ((congrArg Prod.fst hquery).symm.trans hok)
      have hstep : (new.run earlier).step (.query id sql) = (new.run earlier).afterQuery result :=
        after_eq hquery
      have hlength : ((new.run earlier).output result).columns.length = result.columns.length := by
        rw [output, length_describe]
      refine ⟨result, hscript, hlength, fun i c d hc hd => ?_⟩
      have hholds := holdsColumn_afterQuery _ hc hd
      rw [← hstep] at hholds
      have hrun := hholds.run ((hnew.run earlier).step _) hlater
      have hlast : new.run calls = ((new.run earlier).step (.query id sql)).run later := by
        rw [hcalls, run_append]
        rfl
      rw [← hlast] at hrun
      exact ⟨hrun.fixCount_eq, hrun.fst_fixColumn⟩

/-- The second output is cleaned up and the engine restarted, which the first output outlasts.  Of its
first column one reference too many was given back before the last one was taken. -/
theorem handles_distinct_readable_restart :
    let column : Column := ⟨.int, #[(7 : Int32)], ⟨false, true, true, true⟩, rfl⟩
    let result : ScriptedResult :=
      { kind := .table, columns := [⟨"a", "int", 32, 0, column⟩, ⟨"b", "int", 32, 0, column⟩] }
    let earlier : List Call := [.script "q" result, .startup {}, .connect]
    let later : List Call :=
      [.query 1 "q", .fixColumn 3, .unfixColumn 3, .unfixColumn 3, .fixColumn 3, .cleanupResult 5,
        .shutdown, .startup {}, .connect]
    let calls := earlier ++ .query 1 "q" :: later
    let new : MemoryEngine := {}
    collect issued new calls = [1, 2, 3, 4, 5, 6, 7, 8]
      ∧ (collect issued new calls).Nodup
      ∧ ¬ (new.run earlier).InUse 2
      ∧ (new.run calls).fixCount 3 = 1
      ∧ (StorageEngine.fixColumn 3 (new.run calls)).1 = .ok column := by
  intro column result earlier later calls new
  obtain ⟨hnodup, hfresh, -, hread⟩ := handles_distinct_readable none calls
  have hissued : (new.run earlier).issued (.query 1 "q") = [2, 3, 4] := by rfl
  have hunused := hfresh earlier (.query 1 "q") later rfl 2 (hissued ▸ by decide)
  have hid : ((new.run earlier).output result).id = 2 := by rfl
  have hlater : .cleanupResult ((new.run earlier).output result).id ∉ later := by
    rw [hid]
    simp [later]
  obtain ⟨result', hscript, -, hcolumns⟩ := hread earlier 1 "q" later
    ((new.run earlier).output result) rfl (by rfl) hlater
  obtain rfl : result = result' := Option.some.inj ((by rfl : _ = some result).symm.trans hscript)
  obtain ⟨hcount, hcolumn⟩ := hcolumns 0 ⟨"a", "int", 32, 0, column⟩ ⟨"a", "int", 32, 0, 3⟩ rfl rfl
  exact ⟨by decide +kernel, hnodup, hunused, hcount.trans (by decide +kernel),
    hcolumn.trans (if_neg (by decide +kernel))⟩

end MemoryEngine

end ColumnBridge
