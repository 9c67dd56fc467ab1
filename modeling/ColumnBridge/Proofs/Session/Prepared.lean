import ColumnBridge.Proofs.Session.RollBack
import ColumnBridge.Proofs.Session.Client

/-!
What preparing a statement leaves in the engine.

The engine numbers a prepared statement and describes its parameters by an output.  The number is only told
if the output is bound to a result set.

* `MemoryEngine.undone`: an engine after a statement whose output was taken back at once, and
  `MemoryEngine.cleanedUp_afterQuery`: so cleaning up leaves it, since no number is given twice;
* `Connection.Unbindable`: when an output is not bound to a result set, and with which failure;
* `Connection.prepare_undone`: an output that is not bound is taken back with its columns, and the prepared
  statement is forgotten without being released.
-/

namespace ColumnBridge

/-- What is filed under a new key and erased leaves nothing. -/
lemma Ledger.erase_insert_of_not_contains {κ α : Type} [DecidableEq κ] {l : Ledger κ α} {key : κ}
    (h : l.contains key = false) (value : α) : (l.insert key value).erase key = l := by
  have hnew : key ∉ l.entries.map Prod.fst := fun hmem =>
    Bool.false_ne_true (h.symm.trans (contains_iff_mem.mpr hmem))
  have hgone : ((⟨[(key, value)]⟩ : Ledger κ α).erase key).entries = [] := by simp [erase]
  calc (l.insert key value).erase key
      = ⟨(l.erase key).entries ++ ((⟨[(key, value)]⟩ : Ledger κ α).erase key).entries⟩ := by
        rw [erase, entries_insert_of_not_mem hnew, List.filter_append]
        rfl
    _ = l := by rw [hgone, List.append_nil, erase_of_not_contains h]

open MemoryEngine SessionM

/-! ### Statements that are taken back -/

namespace MemoryEngine

variable {e : MemoryEngine}

/-- An engine after a statement whose output was taken back at once.  The numbers are used up, the cleaning
up is counted, and so are the references that were taken. -/
def undone (e : MemoryEngine) (output : QueryOutput) (left : Option ℕ) : MemoryEngine :=
  { e with
    lastHandle := e.lastHandle + output.handles.length
    cleanups := e.cleanups + 1
    lookupsBeforeFailure := left }

/-- The columns of a statement are all that goes with its output. -/
lemma columns_cleanedUp_afterQuery (hn : e.Numbered) (hd : e.Distinct) (result : ScriptedResult) :
    ((e.afterQuery result).cleanedUp (e.output result).id
      ((e.output result).columns.map ColumnDescription.id)).columns = e.columns := by
  have hlt : ∀ key ∈ e.columns.entries.map Prod.fst, key < e.lastHandle + 2 := fun key hkey =>
    Nat.lt_succ_of_le (Nat.le_succ_of_le (hn.inUse_le key (.inr (.inr (Ledger.contains_iff_mem.mpr hkey)))))
  have hentries : (e.afterQuery result).columns.entries
      = e.columns.entries ++ (heldColumns (e.lastHandle + 2) result.columns ++ []) := by
    rw [List.append_nil]
    exact entries_holdColumns hlt result.columns
  have hids : (e.output result).columns.map ColumnDescription.id
      = (heldColumns (e.lastHandle + 2) result.columns).map Prod.fst := map_id_describe ..
  have hnodup := (hd.afterQuery result).columns_nodup
  rw [hentries, List.map_append, List.map_append] at hnodup
  calc ((e.afterQuery result).cleanedUp (e.output result).id _).columns
      = ⟨e.columns.entries ++ []⟩ := by
        rw [cleanedUp, hentries, hids, filter_not_isUnheld (fixes_heldColumns _ _) hnodup]
    _ = e.columns := by rw [List.append_nil]

/-- Since no number is given twice, nothing but the output and its columns is cleaned up. -/
lemma cleanedUp_afterQuery (hn : e.Numbered) (hd : e.Distinct) (result : ScriptedResult)
    (left : Option ℕ) :
    cleanedUp (e.output result).id ((e.output result).columns.map ColumnDescription.id)
        { e.afterQuery result with lookupsBeforeFailure := left }
      = e.undone (e.output result) left := by
  have hnew : e.results.contains (e.lastHandle + 1) = false := by
    rw [Bool.eq_false_iff]
    exact fun h => Nat.not_succ_le_self _ (hn.inUse_le _ (.inr (.inl h)))
  have hresults : (e.afterQuery result).results.erase (e.output result).id = e.results :=
    Ledger.erase_insert_of_not_contains hnew _
  have hlast : (e.afterQuery result).lastHandle = e.lastHandle + (e.output result).handles.length := by
    rw [handles_output, List.length_range', ← Nat.add_assoc, Nat.add_right_comm]
    rfl
  rw [undone, ← hlast, ← hresults, ← columns_cleanedUp_afterQuery hn hd result]
  rfl

/-- The columns of a statement are there after it. -/
lemma contains_columns_afterQuery {result : ScriptedResult} {d : ColumnDescription}
    (hd : d ∈ (e.output result).columns) : (e.afterQuery result).columns.contains d.id = true := by
  obtain ⟨column, hheld⟩ := exists_holdsColumn_afterQuery hd
  exact congrArg Option.isSome hheld.get_eq

end MemoryEngine

/-! ### Outputs that are not bound -/

/-- If any column cannot be bound, there is a first one. -/
lemma FailsAt.exists_first {lookups left : Option ℕ} {ds : List ColumnDescription} {k : ℕ}
    {failure : SessionError} (h : FailsAt lookups ds k failure left) :
    ∃ k failure left, FailsFirst lookups ds k failure left := by
  classical
  have hsome : ∃ k failure left, FailsAt lookups ds k failure left := ⟨k, failure, left, h⟩
  obtain ⟨failure, left, hfails⟩ := Nat.find_spec hsome
  exact ⟨_, failure, left, hfails, fun i hi failure left hearlier =>
    Nat.find_min hsome hi ⟨failure, left, hearlier⟩⟩

namespace Connection

/-- An output is not bound to a result set, with the failure, and with the number of references that the
engine then grants before one is refused. -/
inductive Unbindable (lookups : Option ℕ) (ds : List ColumnDescription) : SessionError → Option ℕ → Prop
  /-- There is nothing to bind. -/
  | empty (h : ds = []) : Unbindable lookups ds .noColumns lookups
  /-- A column cannot be bound, and it is the first such one. -/
  | column {k : ℕ} {failure : SessionError} {left : Option ℕ} (h : FailsFirst lookups ds k failure left) :
      Unbindable lookups ds failure left

variable {e : MemoryEngine} {result : ScriptedResult} {failure : SessionError} {left : Option ℕ}

/-- The output of a statement that is not bound is taken back at once. -/
lemma bind_of_unbindable (c : Connection) (w : Embedding MemoryEngine) (hn : e.Numbered) (hd : e.Distinct)
    (h : Unbindable e.lookupsBeforeFailure (e.output result).columns failure left) :
    c.bind (e.output result) { w with engine := e.afterQuery result }
      = (.error failure, { w with engine := e.undone (e.output result) left }) := by
  have hdiscard (left : Option ℕ) :
      discardOutput (e.output result).id
          { w with engine := { e.afterQuery result with lookupsBeforeFailure := left } }
        = (.ok (), { w with engine := e.undone (e.output result) left }) := by
    rw [← cleanedUp_afterQuery hn hd]
    exact discardOutput_of_get (Ledger.get_insert_self ..)
  cases h with
  | empty hnil =>
    rw [bind, hnil]
    exact bind_apply_of_ok (hdiscard e.lookupsBeforeFailure)
  | column hfails =>
    have hnothing : e.afterQuery result = (e.afterQuery result).taken (boundIds []) := (taken_nil _).symm
    have hbind := bindColumns_of_failsFirst (w := { w with engine := e.afterQuery result })
      (fun d => contains_columns_afterQuery) hnothing hfails
    have hsome : ¬ (e.output result).columns.isEmpty = true := by
      rw [List.isEmpty_iff]
      intro hnil
      rw [hnil] at hfails
      rcases hfails.1 with ⟨hd, -⟩ | ⟨hd, -⟩ <;> cases hd
    rw [bind, if_neg hsome]
    exact bind_apply_of_error (onFailure_of_error hbind (hdiscard left))

/-- An output that can be bound is. -/
lemma exists_bind_of_bindable (c : Connection) (w : Embedding MemoryEngine) (hd : e.Distinct)
    (h : ∀ failure left, ¬ Unbindable e.lookupsBeforeFailure (e.output result).columns failure left) :
    ∃ columns after, c.bind (e.output result) { w with engine := e.afterQuery result }
        = (.ok ⟨(e.output result).id, (e.output result).rowCount, columns, c.options⟩,
          { w with engine := after })
      ∧ List.Forall₂ (BoundTo (e.afterQuery result)) (e.output result).columns columns
      ∧ AllHeld (e.afterQuery result) after (e.output result) := by
  have hfits : ∀ k failure left,
      ¬ FailsAt e.lookupsBeforeFailure (e.output result).columns k failure left := by
    intro k failure left hfails
    obtain ⟨_, _, _, hfirst⟩ := hfails.exists_first
    exact h _ _ (.column hfirst)
  have hsome : ¬ (e.output result).columns.isEmpty = true := fun hnil =>
    h _ _ (.empty (List.isEmpty_iff.mp hnil))
  have hnothing : e.afterQuery result = (e.afterQuery result).taken (boundIds []) := (taken_nil _).symm
  obtain ⟨columns, hcolumns, hbind⟩ := exists_bindColumns_of_not_fails
    (w := { w with engine := e.afterQuery result }) (fun d => contains_columns_afterQuery) hnothing hfits
  have hids := (hd.afterQuery result).ids_nodup _ _ (Ledger.get_insert_self ..)
  refine ⟨columns, _, ?_, hcolumns, allHeld_taken hids⟩
  rw [bind, if_neg hsome]
  exact (bind_apply_of_ok (onFailure_of_ok hbind)).trans rfl

/-- A statement that the engine prepares is told by its number once its output is bound. -/
lemma prepare_apply (c : Connection) {sql : String} {w w' : Embedding MemoryEngine} {output : QueryOutput}
    {p : Int64} (hexecute : c.execute sql w = (.ok output, w')) (hkind : output.kind = .prepare)
    (hid : output.prepareId = some p) :
    c.prepare sql w
      = (do return ⟨p, ← c.bind output⟩ : SessionM MemoryEngine PreparedStatement) w' := by
  rw [prepare, bind_apply_of_ok hexecute, hkind, hid]

/-- **What a prepare leaves.**  The engine has run a statement and numbered it as a prepared one.  If its
output is not bound to a result set, the engine is as it was, but for numbers that are used up, one cleaning
up and the references that it counts: no output and no column is left, and no reference.  If it is bound,
each of its columns has one reference more.  In neither case is the prepared statement released, and only
in the second case is its number told. -/
theorem prepare_undone (startupError : Option String) (calls : List Call) (c : Connection) (sql : String)
    (w : Embedding MemoryEngine) (id : SessionId) (output : QueryOutput) (p : Int64)
    (hreached : w.engine = run { startupError } calls)
    (hopen : w.session c.link = some id)
    (hquery : (StorageEngine.query id sql w.engine).1 = .ok output)
    (hkind : output.kind = .prepare) (hid : output.prepareId = some p) :
    (∀ failure left, Unbindable w.engine.lookupsBeforeFailure output.columns failure left →
        c.prepare sql w = (.error failure, { w with engine := w.engine.undone output left }))
      ∧ ((∀ failure left, ¬ Unbindable w.engine.lookupsBeforeFailure output.columns failure left) →
        ∃ columns after, c.prepare sql w
            = (.ok ⟨p, output.id, output.rowCount, columns, c.options⟩, { w with engine := after })
          ∧ List.Forall₂ (BoundTo (w.engine.step (.query id sql))) output.columns columns
          ∧ AllHeld (w.engine.step (.query id sql)) after output)
      ∧ (c.prepare sql w).2.engine.releasedPrepared = w.engine.releasedPrepared := by
  have hc : w.engine.Consistent := hreached ▸ consistent_run startupError calls
  obtain ⟨result, rfl, hok⟩ := exists_query_of_ok hquery
  have hstep : w.engine.step (.query id sql) = w.engine.afterQuery result := after_eq hok
  have hexecute : c.execute sql w
      = (.ok (w.engine.output result), { w with engine := w.engine.afterQuery result }) := by
    rw [execute, withSession, get_bind_apply, hopen]
    exact onEngine_of_ok hok
  have hprepare := c.prepare_apply hexecute hkind hid
  have hundone {failure left}
      (h : Unbindable w.engine.lookupsBeforeFailure (w.engine.output result).columns failure left) :=
    hprepare.trans (bind_apply_of_error (c.bind_of_unbindable w hc.numbered hc.distinct h))
  have hbound (h : ∀ failure left,
      ¬ Unbindable w.engine.lookupsBeforeFailure (w.engine.output result).columns failure left) :
      ∃ columns after, c.prepare sql w
          = (.ok ⟨p, (w.engine.output result).id, (w.engine.output result).rowCount, columns, c.options⟩,
            { w with engine := after })
        ∧ List.Forall₂ (BoundTo (w.engine.afterQuery result)) (w.engine.output result).columns columns
        ∧ AllHeld (w.engine.afterQuery result) after (w.engine.output result) := by
    obtain ⟨columns, after, hbind, hcolumns, hheld⟩ := c.exists_bind_of_bindable w hc.distinct h
    exact ⟨columns, after, hprepare.trans (bind_apply_of_ok hbind), hcolumns, hheld⟩
  rw [hstep]
  refine ⟨fun failure left => hundone, hbound, ?_⟩
  by_cases h : ∃ failure left,
      Unbindable w.engine.lookupsBeforeFailure (w.engine.output result).columns failure left
  · obtain ⟨failure, left, h⟩ := h
    rw [hundone h]
    rfl
  · obtain ⟨columns, after, hprepared, -, hheld⟩ := hbound fun failure left hleft => h ⟨failure, left, hleft⟩
    rw [hprepared, hheld.rest_eq]
    rfl

/-- The second parameter has a type that is not mapped.  The first one, which was fixed for it, is gone. -/
theorem prepare_undone_unmapped :
    let column : Column := ⟨.int, #[(7 : Int32)], ⟨false, true, true, true⟩, rfl⟩
    let result : ScriptedResult :=
      { kind := .prepare
        prepareId := some 7
        columns := [⟨"a", "int", 32, 0, column⟩, ⟨"b", "inet", 0, 0, column⟩] }
    let calls : List Call := [.script "PREPARE q" result, .startup {}, .connect]
    let w : Embedding MemoryEngine := { engine := run {} calls, links := #[⟨some 1⟩] }
    let c : Connection := ⟨0, {}⟩
    let after := { w.engine with lastHandle := 4, cleanups := 1 }
    c.prepare "PREPARE q" w = (.error (.ofMarshal (.unknownType "inet")), { w with engine := after })
      ∧ after.columns.size = 0
      ∧ after.releasedPrepared = [] := by
  intro column result calls w c after
  have hcolumns : (w.engine.output result).columns = [⟨"a", "int", 32, 0, 3⟩, ⟨"b", "inet", 0, 0, 4⟩] := by
    decide +kernel
  have hfails : FailsFirst w.engine.lookupsBeforeFailure (w.engine.output result).columns 1
      (.ofMarshal (.unknownType "inet")) none := by
    rw [hcolumns]
    refine ⟨.unmapped (d := ⟨"b", "inet", 0, 0, 4⟩) rfl (by rfl), fun i hi failure left hfails => ?_⟩
    obtain rfl := Nat.lt_one_iff.mp hi
    have hmapped : LogicalType.ofSql "int" 32 0 = .ok .int := by rfl
    rcases hfails with ⟨hd, herror⟩ | ⟨-, -, hk⟩
    · obtain rfl := Option.some.inj hd
      cases hmapped.symm.trans herror
    · cases hk
  obtain ⟨hundone, -, -⟩ := prepare_undone none calls c "PREPARE q" w 1 (w.engine.output result) 7 rfl rfl
    (by rfl) rfl rfl
  exact ⟨hundone _ none (.column hfails), by decide +kernel, rfl⟩

/-- A statement without parameters is prepared by the engine under the number 3, which nobody is told and
which is not released. -/
theorem prepare_forgetsStatement :
    let settings : Settings := ⟨none, true, false, 100, {}, "info", false⟩
    let result : ScriptedResult := { kind := .prepare, prepareId := some 3 }
    let c : Connection := ⟨0, {}⟩
    let s := (Client.start none).run
      [.script "PREPARE SELECT" result, .start settings, .connect ⟨0, settings⟩]
    let u := (c.prepare "PREPARE SELECT" s.world).2
    (c.execute "PREPARE SELECT" s.world).1.map QueryOutput.prepareId = .ok (some 3)
      ∧ (c.prepare "PREPARE SELECT" s.world).1 = .error .noColumns
      ∧ u.engine.liveResults = 0
      ∧ u.engine.outstandingFixes = 0
      ∧ 3 ∉ u.engine.releasedPrepared :=
  ⟨rfl, rfl, rfl, rfl, by decide +kernel⟩

end Connection

end ColumnBridge
