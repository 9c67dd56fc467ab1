import ColumnBridge.Proofs.Engine.Quiet

/-!
The outputs that an engine in memory keeps.

* `HeldOutput`: an output that is not cleaned up, with its columns and how often each is fixed;
* `MemoryEngine.Accounts`: the ledgers of an engine consist of the columns of some outputs, whose numbers
  are all different, and every output that was ever produced is either one of them or cleaned up;
* `MemoryEngine.ends_query`, `ends_cleanupResult`, `ends_fixColumn` and `Accounts.unfix`: what the calls
  about outputs make of that;
* `MemoryEngine.Undisturbed`: what every other call leaves as it is.
-/

namespace ColumnBridge

/-! ### Ledgers with different keys -/

namespace Ledger

variable {κ α : Type} {a b : List (κ × α)} {key : κ} {value : α}

/-- No other entry has the key of an entry. -/
lemma ne_of_nodup (h : ((a ++ (key, value) :: b).map Prod.fst).Nodup) {x : κ × α}
    (hx : x ∈ a ∨ x ∈ b) : x.1 ≠ key := by
  have hperm : (key :: (a ++ b).map Prod.fst).Nodup := by
    refine (List.Perm.nodup_iff ?_).mp h
    exact (List.perm_middle (a := (key, value))).map Prod.fst
  intro hkey
  refine (List.nodup_cons.mp hperm).1 ?_
  rw [← hkey]
  exact List.mem_map_of_mem (List.mem_append.mpr hx)

variable [DecidableEq κ] {l : Ledger κ α}

/-- A key is in use if an entry has it. -/
lemma contains_iff_mem : l.contains key = true ↔ key ∈ l.entries.map Prod.fst := by
  simp [contains, get]

/-- The entry under a key is the only one with the key. -/
lemma get_of_nodup (hl : l.entries = a ++ (key, value) :: b) (h : (l.entries.map Prod.fst).Nodup) :
    l.get key = some value := by
  rw [hl] at h
  have hnone : a.find? (fun e => e.1 = key) = none := by
    rw [List.find?_eq_none]
    intro x hx
    simpa using ne_of_nodup h (.inl hx)
  rw [get, hl, List.find?_append, hnone, Option.none_or, List.find?_cons_of_pos (by simp)]
  rfl

/-- What is found under a key is what an entry has there. -/
lemma get_eq_some_iff (h : (l.entries.map Prod.fst).Nodup) :
    l.get key = some value ↔ (key, value) ∈ l.entries := by
  constructor
  · intro hget
    obtain ⟨found, hfound, rfl⟩ := Option.map_eq_some_iff.mp hget
    have hkey : found.1 = key := by simpa using List.find?_some hfound
    exact hkey ▸ List.mem_of_find?_eq_some hfound
  · intro hmem
    obtain ⟨a, b, hl⟩ := List.append_of_mem hmem
    exact get_of_nodup hl h

/-- An entry that is left out is missed under its own key only. -/
lemma get_filter_of_nodup (h : (l.entries.map Prod.fst).Nodup) (keep : κ × α → Bool) (key : κ) :
    get ⟨l.entries.filter keep⟩ key = (l.get key).filter fun value => keep (key, value) := by
  have hsub : ((l.entries.filter keep).map Prod.fst).Nodup := h.sublist (List.filter_sublist.map _)
  ext value
  rw [get_eq_some_iff hsub, List.mem_filter, Option.filter_eq_some_iff, get_eq_some_iff h]

/-- Erasing takes out the entry under the key. -/
lemma entries_erase_of_nodup (hl : l.entries = a ++ (key, value) :: b)
    (h : (l.entries.map Prod.fst).Nodup) : (l.erase key).entries = a ++ b := by
  rw [hl] at h
  have hkeep : ∀ x ∈ a ++ b, decide (x.1 ≠ key) = true := fun x hx =>
    decide_eq_true (ne_of_nodup h (List.mem_append.mp hx))
  rw [erase, hl, List.filter_append, List.filter_cons_of_neg (by simp), ← List.filter_append,
    List.filter_eq_self.mpr hkeep]

lemma size_erase_of_nodup (h : (l.entries.map Prod.fst).Nodup) (hkey : l.contains key = true) :
    (l.erase key).size + 1 = l.size := by
  obtain ⟨value, hget⟩ := Option.isSome_iff_exists.mp hkey
  obtain ⟨a, b, hl⟩ := List.append_of_mem ((get_eq_some_iff h).mp hget)
  rw [size, size, entries_erase_of_nodup hl h, hl]
  simp only [List.length_append, List.length_cons, Nat.add_assoc]

/-- Changing an entry keeps its place and all other entries. -/
lemma entries_modify_of_nodup (hl : l.entries = a ++ (key, value) :: b)
    (h : (l.entries.map Prod.fst).Nodup) (f : α → α) :
    (l.modify key f).entries = a ++ (key, f value) :: b := by
  rw [hl] at h
  have hkeep : ∀ c : List (κ × α), (∀ x ∈ c, x.1 ≠ key) →
      c.map (fun e => if e.1 = key then (e.1, f e.2) else e) = c := by
    intro c hc
    calc c.map (fun e => if e.1 = key then (e.1, f e.2) else e)
        = c.map id := List.map_congr_left fun x hx => if_neg (hc x hx)
      _ = c := List.map_id c
  rw [modify, hl, List.map_append, List.map_cons, if_pos rfl,
    hkeep a fun x hx => ne_of_nodup h (.inl hx), hkeep b fun x hx => ne_of_nodup h (.inr hx)]

/-- A new key comes at the end. -/
lemma entries_insert_of_not_mem (h : key ∉ l.entries.map Prod.fst) (value : α) :
    (l.insert key value).entries = l.entries ++ [(key, value)] := by
  have hkeep : ∀ x ∈ l.entries, decide (x.1 ≠ key) = true := by
    intro x hx
    refine decide_eq_true fun hkey => h ?_
    rw [← hkey]
    exact List.mem_map_of_mem hx
  rw [insert, erase, List.filter_eq_self.mpr hkeep]

end Ledger

/-! ### Outputs that are not cleaned up -/

/-- An output that is not cleaned up, with its columns. -/
structure HeldOutput where
  id : ResultId
  columns : List (ColumnId × HeldColumn)

namespace HeldOutput

/-- The columns of some outputs. -/
def allColumns (outputs : List HeldOutput) : List (ColumnId × HeldColumn) :=
  outputs.flatMap HeldOutput.columns

/-- The numbers of the columns of some outputs. -/
def columnIds (outputs : List HeldOutput) : List ColumnId := (allColumns outputs).map Prod.fst

/-- What the ledger of outputs says about an output. -/
def entry (o : HeldOutput) : ResultId × List ColumnId := (o.id, o.columns.map Prod.fst)

lemma allColumns_append (a b : List HeldOutput) :
    allColumns (a ++ b) = allColumns a ++ allColumns b := List.flatMap_append

lemma columnIds_append (a b : List HeldOutput) :
    columnIds (a ++ b) = columnIds a ++ columnIds b := by
  rw [columnIds, allColumns_append, List.map_append]
  rfl

/-- The numbers of the columns around one output. -/
lemma columnIds_middle (a b : List HeldOutput) (o : HeldOutput) :
    columnIds (a ++ o :: b) = columnIds a ++ (o.columns.map Prod.fst ++ columnIds b) := by
  have hfirst : columnIds (o :: b) = o.columns.map Prod.fst ++ columnIds b := List.map_append
  rw [columnIds_append, hfirst]

/-- The columns around one column of an output. -/
lemma allColumns_split (a b : List HeldOutput) (r : ResultId) (x y : List (ColumnId × HeldColumn))
    (c : ColumnId × HeldColumn) :
    allColumns (a ++ ⟨r, x ++ c :: y⟩ :: b) = (allColumns a ++ x) ++ c :: (y ++ allColumns b) := by
  simp [allColumns]

end HeldOutput

open HeldOutput

namespace MemoryEngine

/-- The ledgers of an engine consist of some outputs and their columns, with different numbers that were
all given out, and of the outputs that were ever produced the others are cleaned up. -/
structure Accounts (e : MemoryEngine) (outputs : List HeldOutput) (produced : ℕ) : Prop where
  results_eq : e.results.entries = outputs.map entry
  columns_eq : e.columns.entries = allColumns outputs
  ids_nodup : (outputs.map HeldOutput.id).Nodup
  columns_nodup : (columnIds outputs).Nodup
  id_le : ∀ id : ℕ, id ∈ outputs.map HeldOutput.id → id ≤ e.lastHandle
  column_le : ∀ id : ℕ, id ∈ columnIds outputs → id ≤ e.lastHandle
  count_eq : e.cleanups + outputs.length = produced

/-- What a call that is not about outputs leaves as it is; numbers may be given out. -/
structure Undisturbed (e e' : MemoryEngine) : Prop where
  results_eq : e'.results = e.results
  columns_eq : e'.columns = e.columns
  cleanups_eq : e'.cleanups = e.cleanups
  handle_le : e.lastHandle ≤ e'.lastHandle

namespace Undisturbed

lemma of_quiet {e e' : MemoryEngine} (h : Quiet e e') : Undisturbed e e' :=
  ⟨h.results_eq, h.columns_eq, h.cleanups_eq, h.handle_eq.ge⟩

lemma refl (e : MemoryEngine) : Undisturbed e e := of_quiet (.refl e)

lemma trans {e e' e'' : MemoryEngine} (h : Undisturbed e e') (h' : Undisturbed e' e'') :
    Undisturbed e e'' :=
  ⟨h'.results_eq.trans h.results_eq, h'.columns_eq.trans h.columns_eq,
    h'.cleanups_eq.trans h.cleanups_eq, h.handle_le.trans h'.handle_le⟩

end Undisturbed

namespace Accounts

variable {e e' : MemoryEngine} {outputs a b : List HeldOutput} {r : ResultId}
  {x y : List (ColumnId × HeldColumn)} {key : ColumnId} {held : HeldColumn} {n : ℕ}

/-- An engine that has produced nothing. -/
lemma fresh (startupError : Option String) : Accounts { startupError } [] 0 where
  results_eq := rfl
  columns_eq := rfl
  ids_nodup := .nil
  columns_nodup := .nil
  id_le := by simp
  column_le := by simp [columnIds, allColumns]
  count_eq := rfl

lemma keys_nodup (h : e.Accounts outputs n) : (e.columns.entries.map Prod.fst).Nodup := by
  rw [h.columns_eq]
  exact h.columns_nodup

lemma of_undisturbed (h : e.Accounts outputs n) (hu : Undisturbed e e') : e'.Accounts outputs n where
  results_eq := by rw [hu.results_eq, h.results_eq]
  columns_eq := by rw [hu.columns_eq, h.columns_eq]
  ids_nodup := h.ids_nodup
  columns_nodup := h.columns_nodup
  id_le id hid := (h.id_le id hid).trans hu.handle_le
  column_le id hid := (h.column_le id hid).trans hu.handle_le
  count_eq := by rw [hu.cleanups_eq, h.count_eq]

/-- A column of an output is found under its number. -/
lemma get_column (h : e.Accounts (a ++ ⟨r, x ++ (key, held) :: y⟩ :: b) n) :
    e.columns.get key = some held :=
  Ledger.get_of_nodup (h.columns_eq.trans (allColumns_split ..)) h.keys_nodup

/-- Changing one column of an output changes nothing else. -/
lemma modify_column (h : e.Accounts (a ++ ⟨r, x ++ (key, held) :: y⟩ :: b) n)
    (f : HeldColumn → HeldColumn) :
    Accounts { e with columns := e.columns.modify key f }
      (a ++ ⟨r, x ++ (key, f held) :: y⟩ :: b) n := by
  have hids : (a ++ ⟨r, x ++ (key, f held) :: y⟩ :: b).map HeldOutput.id
      = (a ++ ⟨r, x ++ (key, held) :: y⟩ :: b).map HeldOutput.id := by
    simp
  have hkeys : columnIds (a ++ ⟨r, x ++ (key, f held) :: y⟩ :: b)
      = columnIds (a ++ ⟨r, x ++ (key, held) :: y⟩ :: b) := by
    simp [columnIds, allColumns_split]
  constructor
  · simpa [entry] using h.results_eq
  · rw [allColumns_split]
    exact Ledger.entries_modify_of_nodup (h.columns_eq.trans (allColumns_split ..)) h.keys_nodup f
  · rw [hids]
    exact h.ids_nodup
  · rw [hkeys]
    exact h.columns_nodup
  · rw [hids]
    exact h.id_le
  · rw [hkeys]
    exact h.column_le
  · simpa using h.count_eq

/-- A reference that is given back is one less. -/
lemma unfix (h : e.Accounts (a ++ ⟨r, x ++ (key, held) :: y⟩ :: b) n) :
    (e.unfixColumn key).Accounts
      (a ++ ⟨r, x ++ (key, { held with fixes := held.fixes - 1 }) :: y⟩ :: b) n :=
  h.modify_column fun c => { c with fixes := c.fixes - 1 }

end Accounts

variable {e : MemoryEngine} {outputs a b : List HeldOutput} {r : ResultId}
  {x y : List (ColumnId × HeldColumn)} {key : ColumnId} {held : HeldColumn} {n : ℕ}

/-! ### Taking a reference -/

/-- A reference to a column of an output is one more, or is refused and nothing changes. -/
lemma ends_fixColumn (h : e.Accounts (a ++ ⟨r, x ++ (key, held) :: y⟩ :: b) n) :
    Ends (fixColumn key) e
      (fun column e' => column = held.column
        ∧ e'.Accounts (a ++ ⟨r, x ++ (key, { held with fixes := held.fixes + 1 }) :: y⟩ :: b) n)
      fun e' => e'.Accounts (a ++ ⟨r, x ++ (key, held) :: y⟩ :: b) n := by
  rw [fixColumn]
  rw [ends_bind]
  refine (quiets_countLookup key e).mono ?_ fun e' hq => h.of_undisturbed (.of_quiet hq)
  intro _ e' hq
  have h' := h.of_undisturbed (.of_quiet hq)
  simp only [ends_bind, ends_get, h'.get_column, ends_set, ends_pure]
  exact ⟨trivial, h'.modify_column fun c => { c with fixes := c.fixes + 1 }⟩

/-! ### Cleaning up -/

/-- Among columns with different numbers only those go that belong to the output. -/
lemma filter_not_isUnheld {x y z : List (ColumnId × HeldColumn)} (hfree : ∀ c ∈ y, c.2.fixes = 0)
    (hnodup : (x.map Prod.fst ++ (y.map Prod.fst ++ z.map Prod.fst)).Nodup) :
    (x ++ (y ++ z)).filter (fun c => !isUnheld (y.map Prod.fst) c) = x ++ z := by
  obtain ⟨-, hyz, hx⟩ := List.nodup_append.mp hnodup
  obtain ⟨-, -, hz⟩ := List.nodup_append.mp hyz
  have hkeep : ∀ c : ColumnId × HeldColumn, c.1 ∉ y.map Prod.fst →
      (!isUnheld (y.map Prod.fst) c) = true := by
    intro c hc
    rw [isUnheld, decide_eq_false hc]
    rfl
  have hgo : ∀ c ∈ y, ¬ (!isUnheld (y.map Prod.fst) c) = true := by
    intro c hc
    rw [isUnheld, hfree c hc, decide_eq_true (List.mem_map_of_mem hc)]
    exact Bool.false_ne_true
  rw [List.filter_append, List.filter_append, List.filter_eq_nil_iff.mpr hgo, List.nil_append]
  congr 1
  · refine List.filter_eq_self.mpr fun c hc => hkeep c fun hy => ?_
    exact hx _ (List.mem_map_of_mem hc) _ (List.mem_append_left _ hy) rfl
  · refine List.filter_eq_self.mpr fun c hc => hkeep c fun hy => ?_
    exact hz _ hy _ (List.mem_map_of_mem hc) rfl

/-- Cleaning up an output without references takes out the output and its columns. -/
lemma ends_cleanupResult {o : HeldOutput} (h : e.Accounts (a ++ o :: b) n)
    (hfree : ∀ c ∈ o.columns, c.2.fixes = 0) :
    Ends (cleanupResult o.id) e (fun _ e' => e'.Accounts (a ++ b) n) fun _ => False := by
  have hresults : e.results.entries = a.map entry ++ (o.id, o.columns.map Prod.fst) :: b.map entry := by
    rw [h.results_eq, List.map_append]
    rfl
  have hids : (e.results.entries.map Prod.fst).Nodup := by
    rw [h.results_eq, List.map_map]
    exact h.ids_nodup
  have hall : allColumns (a ++ o :: b) = allColumns a ++ (o.columns ++ allColumns b) := by
    rw [allColumns_append]
    rfl
  have hkeys := columnIds_middle a b o
  have hsub : (a ++ b).Sublist (a ++ o :: b) := (List.sublist_cons_self o b).append_left a
  have hkeysub : (columnIds (a ++ b)).Sublist (columnIds (a ++ o :: b)) := by
    rw [columnIds_append, hkeys]
    exact (List.sublist_append_right ..).append_left _
  rw [cleanupResult]
  simp only [ends_bind, ends_modify, ends_get, Ledger.get_of_nodup hresults hids, ends_set]
  constructor
  · rw [Ledger.entries_erase_of_nodup hresults hids, List.map_append]
  · rw [h.columns_eq, hall, allColumns_append]
    exact filter_not_isUnheld hfree (hkeys ▸ h.columns_nodup)
  · exact h.ids_nodup.sublist (hsub.map _)
  · exact h.columns_nodup.sublist hkeysub
  · exact fun id hid => h.id_le id ((hsub.map _).subset hid)
  · exact fun id hid => h.column_le id (hkeysub.subset hid)
  · have hcount := h.count_eq
    simp only [List.length_append, List.length_cons] at hcount ⊢
    omega

/-! ### Statements -/

/-- The columns of a statement, numbered from `id` on, before anybody holds them. -/
def heldColumns (id : ColumnId) : List ScriptedColumn → List (ColumnId × HeldColumn)
  | [] => []
  | c :: cs => (id, { column := c.column }) :: heldColumns (id + 1) cs

lemma map_fst_heldColumns (id : ColumnId) (cs : List ScriptedColumn) :
    (heldColumns id cs).map Prod.fst = List.range' id cs.length := by
  induction cs generalizing id with
  | nil => rfl
  | cons c cs ih => rw [heldColumns, List.map_cons, ih, List.length_cons, List.range'_succ]

lemma map_id_describe (id : ColumnId) (cs : List ScriptedColumn) :
    (describe id cs).map ColumnDescription.id = (heldColumns id cs).map Prod.fst := by
  induction cs generalizing id with
  | nil => rfl
  | cons c cs ih => rw [describe, heldColumns, List.map_cons, List.map_cons, ih]

lemma fixes_heldColumns (id : ColumnId) (cs : List ScriptedColumn) :
    ∀ c ∈ heldColumns id cs, c.2.fixes = 0 := by
  induction cs generalizing id with
  | nil => simp [heldColumns]
  | cons c cs ih =>
    rintro d (_ | ⟨_, hd⟩)
    · rfl
    · exact ih _ d hd

/-- Columns with new numbers come at the end. -/
lemma entries_holdColumns {columns : Ledger ColumnId HeldColumn} {id : ColumnId}
    (h : ∀ key ∈ columns.entries.map Prod.fst, key < id) (cs : List ScriptedColumn) :
    (holdColumns columns id cs).entries = columns.entries ++ heldColumns id cs := by
  induction cs generalizing columns id with
  | nil => exact (List.append_nil _).symm
  | cons c cs ih =>
    have hnew : id ∉ columns.entries.map Prod.fst := fun hmem => lt_irrefl _ (h id hmem)
    have hinsert := Ledger.entries_insert_of_not_mem hnew { column := c.column }
    have hnext : ∀ key ∈ (columns.insert id { column := c.column }).entries.map Prod.fst,
        key < id + 1 := by
      rw [hinsert, List.map_append]
      intro key hkey
      rcases List.mem_append.mp hkey with hold | hself
      · exact (h key hold).trans (Nat.lt_succ_self id)
      · rw [List.mem_singleton.mp hself]
        exact Nat.lt_succ_self id
    rw [holdColumns, ih hnext, hinsert, List.append_assoc]
    rfl

/-- A statement adds its output, with columns that nobody holds. -/
lemma Accounts.afterQuery (h : e.Accounts outputs n) (result : ScriptedResult) :
    (e.afterQuery result).Accounts
      (outputs ++ [⟨(e.output result).id, heldColumns (e.lastHandle + 2) result.columns⟩]) (n + 1) := by
  have hid : e.lastHandle + 1 ∉ e.results.entries.map Prod.fst := by
    rw [h.results_eq, List.map_map]
    intro hmem
    exact absurd (h.id_le _ hmem) (Nat.not_succ_le_self _)
  have hcolumns : ∀ key ∈ e.columns.entries.map Prod.fst, key < e.lastHandle + 2 := by
    rw [h.columns_eq]
    intro key hkey
    exact Nat.lt_succ_of_le (Nat.le_succ_of_le (h.column_le key hkey))
  have hall : columnIds
        (outputs ++ [⟨(e.output result).id, heldColumns (e.lastHandle + 2) result.columns⟩])
      = columnIds outputs ++ List.range' (e.lastHandle + 2) result.columns.length := by
    rw [columnIds_append, ← map_fst_heldColumns]
    simp [columnIds, allColumns]
  have hlast : (e.afterQuery result).lastHandle = e.lastHandle + 1 + result.columns.length := rfl
  constructor
  · rw [List.map_append, ← h.results_eq]
    refine (Ledger.entries_insert_of_not_mem hid _).trans ?_
    simp only [entry, output, map_id_describe, List.map_cons, List.map_nil]
  · rw [allColumns_append, ← h.columns_eq]
    refine (entries_holdColumns hcolumns result.columns).trans ?_
    simp [allColumns, output]
  · rw [List.map_append]
    refine List.nodup_append.mpr ⟨h.ids_nodup, List.nodup_singleton _, ?_⟩
    intro id hold new hnew
    rw [List.mem_singleton.mp hnew]
    exact Nat.ne_of_lt (Nat.lt_succ_of_le (h.id_le id hold))
  · rw [hall]
    refine List.nodup_append.mpr ⟨h.columns_nodup, List.nodup_range', ?_⟩
    intro id hold new hnew
    have hle := h.column_le id hold
    have hge := (List.mem_range'_1.mp hnew).1
    exact Nat.ne_of_lt (by omega)
  · intro id hid'
    rw [List.map_append, List.mem_append] at hid'
    rw [hlast]
    rcases hid' with hold | hnew
    · have hle := h.id_le id hold
      omega
    · have heq : id = e.lastHandle + 1 := List.mem_singleton.mp hnew
      omega
  · intro id hid'
    rw [hall, List.mem_append] at hid'
    rw [hlast]
    rcases hid' with hold | hnew
    · have hle := h.column_le id hold
      omega
    · have hlt := (List.mem_range'_1.mp hnew).2
      omega
  · have hcount := h.count_eq
    have hcleanups : (e.afterQuery result).cleanups = e.cleanups := rfl
    rw [hcleanups, List.length_append, List.length_singleton]
    omega

/-- A statement fails without a trace, or leaves an output with columns that nobody holds. -/
lemma ends_query (h : e.Accounts outputs n) (id : SessionId) (sql : String) :
    Ends (query id sql) e
      (fun output e' => ∃ columns : List (ColumnId × HeldColumn),
        columns.map Prod.fst = output.columns.map ColumnDescription.id
          ∧ (∀ c ∈ columns, c.2.fixes = 0)
          ∧ e'.Accounts (outputs ++ [⟨output.id, columns⟩]) (n + 1))
      fun e' => e'.Accounts outputs n := by
  rw [query, session]
  simp only [ends_bind, ends_get]
  split
  · simp only [ends_pure]
    split
    · exact h
    · next result _ =>
      simp only [ends_bind, ends_set, ends_pure]
      refine ⟨heldColumns (e.lastHandle + 2) result.columns, ?_, fixes_heldColumns _ _,
        h.afterQuery result⟩
      rw [output, map_id_describe]
  · exact h

/-! ### All other calls -/

/-- A call leaves the outputs of an engine as they are, whether it returns or fails. -/
def Spares {α : Type} (call : EngineM MemoryEngine α) : Prop :=
  ∀ e, Ends call e (fun _ => Undisturbed e) (Undisturbed e)

/-- Opening a session gives a number out, and nothing else that is about outputs. -/
lemma spares_connect : Spares connect := by
  intro e
  rw [connect]
  simp only [ends_bind, ends_get, ends_ite, ends_set, ends_pure, ends_throw]
  exact ⟨fun _ => ⟨rfl, rfl, rfl, Nat.le_succ _⟩, fun _ => .refl e⟩

end MemoryEngine

end ColumnBridge
