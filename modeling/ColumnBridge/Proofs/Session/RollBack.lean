import ColumnBridge.Proofs.Engine.Kept
import ColumnBridge.Session.ResultSet

/-!
Binding the columns of an output: all of them, or none.

A column cannot be bound if its type is not mapped, of which the engine does not hear, or if the reference
to it is the one that the engine refuses.  Either may happen after any number of columns are bound.

* `FailsAt`, `FailsFirst`: which column cannot be bound, why, and how many references the engine still
  counts towards the one to be refused;
* `bindColumns_of_failsFirst`, `exists_bindColumns_of_not_fails`: what binding leaves in the engine;
* `RolledBack`, `AllHeld`: an engine after a result set was not made, and after it was;
* `ResultSet.create_allOrNothing`: which of the two it is, and with which failure.
-/

namespace ColumnBridge

open MemoryEngine SessionM

/-! ### Failures of binding -/

/-- The column at a position cannot be bound when all before it are, with the failure, and with the number
of references that the engine then grants before one is refused. -/
inductive FailsAt (lookups : Option ℕ) (ds : List ColumnDescription) (k : ℕ) :
    SessionError → Option ℕ → Prop
  /-- The type is not mapped, and the engine is not asked. -/
  | unmapped {d : ColumnDescription} {failure : MarshalError} (hd : ds[k]? = some d)
      (h : LogicalType.ofSql d.sqlType d.digits d.scale = .error failure) :
      FailsAt lookups ds k (.ofMarshal failure) (lookups.map (· - k))
  /-- The reference is the one to be refused. -/
  | refused {d : ColumnDescription} {logical : LogicalType} (hd : ds[k]? = some d)
      (htype : LogicalType.ofSql d.sqlType d.digits d.scale = .ok logical) (h : lookups = some k) :
      FailsAt lookups ds k (.ofEngine (noColumn d.id)) none

/-- It is the first such column. -/
def FailsFirst (lookups : Option ℕ) (ds : List ColumnDescription) (k : ℕ) (failure : SessionError)
    (left : Option ℕ) : Prop :=
  FailsAt lookups ds k failure left ∧ ∀ i < k, ∀ failure left, ¬ FailsAt lookups ds i failure left

variable {lookups left : Option ℕ} {d : ColumnDescription} {ds : List ColumnDescription} {k : ℕ}
  {failure : SessionError}

/-- Behind a column that is bound, positions and references are one less. -/
lemma failsAt_succ_iff (h : lookups ≠ some 0) :
    FailsAt lookups (d :: ds) (k + 1) failure left
      ↔ FailsAt (lookups.map (· - 1)) ds k failure left := by
  have hleft : (lookups.map (· - 1)).map (· - k) = lookups.map (· - (k + 1)) := by
    simp [Function.comp_def, Nat.sub_sub, Nat.add_comm]
  have hrefused : lookups.map (· - 1) = some k ↔ lookups = some (k + 1) := by
    cases lookups with
    | none => simp
    | some n =>
      have hn : n ≠ 0 := fun hn => h (congrArg some hn)
      simp only [Option.map_some, Option.some.injEq]
      omega
  constructor
  · rintro (⟨hd, herror⟩ | ⟨hd, htype, hk⟩)
    · exact hleft ▸ .unmapped hd herror
    · exact .refused hd htype (hrefused.mpr hk)
  · rintro (⟨hd, herror⟩ | ⟨hd, htype, hk⟩)
    · exact hleft ▸ .unmapped hd herror
    · exact .refused hd htype (hrefused.mp hk)

/-! ### Steps of binding -/

variable {w : Embedding MemoryEngine} {e : MemoryEngine} {held : HeldColumn}

/-- A column whose type is mapped and whose reference is given. -/
lemma BoundColumn.bind_of_ok {logical : LogicalType}
    (htype : LogicalType.ofSql d.sqlType d.digits d.scale = .ok logical)
    (hget : w.engine.columns.get d.id = some held) (hlookups : w.engine.lookupsBeforeFailure ≠ some 0) :
    BoundColumn.bind d w
      = (.ok ⟨d.name, d.sqlType, logical, d.digits, d.scale, ⟨d.id, held.column⟩⟩,
        { w with engine := w.engine.taken [d.id] }) := by
  have hacquire : ColumnGuard.acquire d.id w.engine
      = (.ok ⟨d.id, held.column⟩, w.engine.taken [d.id]) := by
    rw [ColumnGuard.acquire]
    exact (bind_apply_of_ok (fixColumn_of_get hget hlookups)).trans rfl
  have hmapped : (liftM (liftMarshal (LogicalType.ofSql d.sqlType d.digits d.scale)) :
      SessionM MemoryEngine LogicalType) w = (.ok logical, w) := by
    rw [htype]
    rfl
  rw [BoundColumn.bind]
  exact (bind_apply_of_ok hmapped).trans ((bind_apply_of_ok (onEngine_of_ok hacquire)).trans rfl)

/-- A column that cannot be bound leaves the engine alone but for the reference to be refused. -/
lemma BoundColumn.bind_of_failsAt (h : FailsAt w.engine.lookupsBeforeFailure (d :: ds) 0 failure left) :
    BoundColumn.bind d w
      = (.error failure, { w with engine := { w.engine with lookupsBeforeFailure := left } }) := by
  rw [BoundColumn.bind]
  rcases h with ⟨hd, herror⟩ | ⟨hd, htype, hk⟩
  · obtain rfl := Option.some.inj hd
    have hsame : w.engine.lookupsBeforeFailure.map (· - 0) = w.engine.lookupsBeforeFailure := by simp
    rw [hsame, herror]
    exact bind_apply_of_error rfl
  · obtain rfl := Option.some.inj hd
    have hacquire : ColumnGuard.acquire d.id w.engine
        = (.error (noColumn d.id), { w.engine with lookupsBeforeFailure := none }) := by
      rw [ColumnGuard.acquire]
      exact bind_apply_of_error (fixColumn_of_refused hk d.id)
    rw [htype]
    exact (bind_apply_of_ok rfl).trans (bind_apply_of_error (onEngine_of_error hacquire))

/-- The columns that were bound, by their numbers. -/
def boundIds (columns : List BoundColumn) : List ColumnId := columns.map fun c => c.guard.id

/-- Columns that are given back are counted off. -/
lemma releaseColumns_eq (columns : List BoundColumn) (w : Embedding MemoryEngine) :
    releaseColumns columns w
      = (.ok (), { w with engine := w.engine.recount fun key n => n - (boundIds columns).count key }) := by
  have hrun : releaseColumns columns w
      = (.ok (), { w with engine := w.engine.run ((boundIds columns).map .unfixColumn) }) := by
    induction columns generalizing w with
    | nil => rfl
    | cons c columns ih => exact ih { w with engine := w.engine.unfixColumn c.guard.id }
  rw [hrun, run_unfixColumns]

/-- An output that is there is cleaned up, and nobody has to hear of it. -/
lemma discardOutput_of_get {r : ResultId} {ids : List ColumnId} (h : w.engine.results.get r = some ids) :
    discardOutput r w = (.ok (), { w with engine := w.engine.cleanedUp r ids }) := by
  have hcleaned : StorageEngine.cleanupResult r w.engine = (.ok (), w.engine.cleanedUp r ids) :=
    cleanupResult_of_get h
  simp only [discardOutput, quietly, hcleaned]

/-! ### Binding all columns -/

/-- A bound column is the described one, of a type that is mapped, with what the engine has for it. -/
def BoundTo (e : MemoryEngine) (d : ColumnDescription) (c : BoundColumn) : Prop :=
  ∃ logical held, LogicalType.ofSql d.sqlType d.digits d.scale = .ok logical
    ∧ e.columns.get d.id = some held
    ∧ c = ⟨d.name, d.sqlType, logical, d.digits, d.scale, ⟨d.id, held.column⟩⟩

variable {bound : List BoundColumn}

/-- If the next column can be bound, binding goes on behind it. -/
lemma exists_bindColumns_cons (hthere : e.columns.contains d.id = true)
    (hw : w.engine = e.taken (boundIds bound))
    (h : ∀ failure left, ¬ FailsAt w.engine.lookupsBeforeFailure (d :: ds) 0 failure left) :
    w.engine.lookupsBeforeFailure ≠ some 0
      ∧ ∃ c, BoundTo e d c
        ∧ w.engine.taken [d.id] = e.taken (boundIds (bound ++ [c]))
        ∧ bindColumns bound (d :: ds) w
          = bindColumns (bound ++ [c]) ds { w with engine := w.engine.taken [d.id] } := by
  obtain ⟨held, hheld⟩ := Option.isSome_iff_exists.mp hthere
  cases htype : LogicalType.ofSql d.sqlType d.digits d.scale with
  | error failure => exact absurd (.unmapped rfl htype) (h _ _)
  | ok logical =>
    have hlookups : w.engine.lookupsBeforeFailure ≠ some 0 := fun hk => h _ _ (.refused rfl htype hk)
    have hget := get_taken (boundIds bound) e d.id
    rw [hheld, ← hw] at hget
    have hbind := BoundColumn.bind_of_ok htype hget hlookups
    refine ⟨hlookups, _, ⟨logical, held, htype, hheld, rfl⟩, ?_, bind_apply_of_ok (onFailure_of_ok hbind)⟩
    rw [hw, taken_taken, boundIds, boundIds, List.map_append]
    rfl

/-- If a column cannot be bound, those that were are given back, and the first failure is that of binding. -/
lemma bindColumns_of_failsFirst (hthere : ∀ d ∈ ds, e.columns.contains d.id = true)
    (hw : w.engine = e.taken (boundIds bound))
    (h : FailsFirst w.engine.lookupsBeforeFailure ds k failure left) :
    bindColumns bound ds w
      = (.error failure, { w with engine := { e with lookupsBeforeFailure := left } }) := by
  induction ds generalizing bound w k with
  | nil => rcases h.1 with ⟨hd, -⟩ | ⟨hd, -⟩ <;> cases hd
  | cons d ds ih =>
    obtain ⟨hfails, hfirst⟩ := h
    cases k with
    | zero =>
      have hback := releaseColumns_eq bound
        { w with engine := { w.engine with lookupsBeforeFailure := left } }
      have hbind := BoundColumn.bind_of_failsAt hfails
      rw [hw] at hback hbind
      rw [recount_taken] at hback
      exact bind_apply_of_error (onFailure_of_error hbind hback)
    | succ k =>
      obtain ⟨hlookups, c, -, htaken, hnext⟩ :=
        exists_bindColumns_cons (hthere d List.mem_cons_self) hw (hfirst 0 (Nat.succ_pos k))
      have hrest : FailsFirst (w.engine.taken [d.id]).lookupsBeforeFailure ds k failure left := by
        refine ⟨(failsAt_succ_iff hlookups).mp hfails, fun i hi failure left hi' => ?_⟩
        exact hfirst (i + 1) (Nat.succ_lt_succ hi) failure left ((failsAt_succ_iff hlookups).mpr hi')
      rw [hnext]
      exact ih (fun d hd => hthere d (List.mem_cons_of_mem _ hd)) htaken hrest

/-- If every column can be bound, one reference to each of them is taken. -/
lemma exists_bindColumns_of_not_fails (hthere : ∀ d ∈ ds, e.columns.contains d.id = true)
    (hw : w.engine = e.taken (boundIds bound))
    (h : ∀ k failure left, ¬ FailsAt w.engine.lookupsBeforeFailure ds k failure left) :
    ∃ columns, List.Forall₂ (BoundTo e) ds columns
      ∧ bindColumns bound ds w
        = (.ok (bound ++ columns),
          { w with engine := w.engine.taken (ds.map ColumnDescription.id) }) := by
  induction ds generalizing bound w with
  | nil =>
    refine ⟨[], .nil, ?_⟩
    rw [List.append_nil, List.map_nil, taken_nil]
    rfl
  | cons d ds ih =>
    obtain ⟨hlookups, c, hc, htaken, hnext⟩ :=
      exists_bindColumns_cons (hthere d List.mem_cons_self) hw (h 0)
    have hrest : ∀ k failure left,
        ¬ FailsAt (w.engine.taken [d.id]).lookupsBeforeFailure ds k failure left :=
      fun k failure left hk => h (k + 1) failure left ((failsAt_succ_iff hlookups).mpr hk)
    obtain ⟨columns, hcolumns, hbound⟩ := ih (w := { w with engine := w.engine.taken [d.id] })
      (fun d hd => hthere d (List.mem_cons_of_mem _ hd)) htaken hrest
    refine ⟨c :: columns, .cons hc hcolumns, hnext.trans (hbound.trans ?_)⟩
    rw [taken_taken, List.append_assoc]
    rfl

/-! ### All columns or none -/

/-- An engine after a result set was not made: the output is gone, and with it those of its columns that
nobody else holds.  All references are what they were. -/
structure RolledBack (before after : MemoryEngine) (output : QueryOutput) (left : Option ℕ) : Prop where
  fixCount_eq : ∀ key, after.fixCount key = before.fixCount key
  get_column : ∀ key, after.columns.get key
    = if key ∈ output.columns.map ColumnDescription.id ∧ before.fixCount key = 0 then none
      else before.columns.get key
  results_eq : after.results = before.results.erase output.id
  liveResults_eq : after.liveResults + 1 = before.liveResults
  cleanups_eq : after.cleanups = before.cleanups + 1
  lookups_eq : after.lookupsBeforeFailure = left
  rest_eq : after
    = { before with
        columns := after.columns
        results := after.results
        cleanups := after.cleanups
        lookupsBeforeFailure := after.lookupsBeforeFailure }

/-- An engine after a result set was made: each described column has one reference more. -/
structure AllHeld (before after : MemoryEngine) (output : QueryOutput) : Prop where
  get_column : ∀ key, after.columns.get key = (before.columns.get key).map fun c =>
    { c with fixes := c.fixes + if key ∈ output.columns.map ColumnDescription.id then 1 else 0 }
  lookups_eq : after.lookupsBeforeFailure
    = before.lookupsBeforeFailure.map (· - output.columns.length)
  rest_eq : after
    = { before with
        columns := after.columns
        lookupsBeforeFailure := after.lookupsBeforeFailure }

lemma rolledBack_cleanedUp {output : QueryOutput} (hd : e.Distinct)
    (hlive : e.results.contains output.id = true) (left : Option ℕ) :
    RolledBack e
      (cleanedUp output.id (output.columns.map ColumnDescription.id)
        { e with lookupsBeforeFailure := left })
      output left := by
  have hget := get_cleanedUp (e := { e with lookupsBeforeFailure := left })
    ⟨hd.results_nodup, hd.columns_nodup, hd.ids_nodup⟩ output.id
    (output.columns.map ColumnDescription.id)
  refine ⟨fun key => ?_, hget, rfl, Ledger.size_erase_of_nodup hd.results_nodup hlive, rfl, rfl, rfl⟩
  rw [fixCount, hget key]
  split_ifs with hgone
  · exact hgone.2.symm
  · rfl

lemma allHeld_taken {output : QueryOutput} (h : (output.columns.map ColumnDescription.id).Nodup) :
    AllHeld e (e.taken (output.columns.map ColumnDescription.id)) output := by
  refine ⟨fun key => ?_, ?_, rfl⟩
  · rw [get_taken, h.count]
  · rw [taken, recount, countDown, List.length_map]

/-- What an output that is there has for its columns, since its statement. -/
lemma get_results_of_query {id : SessionId} {sql : String} {output : QueryOutput} {later : List Call}
    (hquery : (StorageEngine.query id sql e).1 = .ok output)
    (hlive : (e.run (.query id sql :: later)).results.contains output.id = true) :
    (e.run (.query id sql :: later)).results.get output.id
      = some (output.columns.map ColumnDescription.id) := by
  obtain ⟨result, rfl, hok⟩ := exists_query_of_ok hquery
  have hstep : e.run (.query id sql :: later) = (e.afterQuery result).run later :=
    congrArg (run · later) (after_eq hok)
  have hle : (e.output result).id ≤ (e.afterQuery result).lastHandle := Nat.le_add_right ..
  rw [hstep] at hlive ⊢
  rw [get_results_run hle (not_cleaned_of_contains hle hlive)]
  exact Ledger.get_insert_self ..

namespace ResultSet

/-- **All columns or none.**  A result set is made of an output that is there, in an engine that calls led
to.  If a column cannot be bound, the result is the failure of the first one, every reference is what it
was, the output is cleaned up once, and exactly those of its columns are gone that nobody holds.  Else each
column of the output has one reference more, and nothing changes but the count of references towards the
one to be refused. -/
theorem create_allOrNothing (startupError : Option String) (earlier later : List Call) (id : SessionId)
    (sql : String) (output : QueryOutput) (options : MarshalOptions) (w : Embedding MemoryEngine)
    (hquery : (StorageEngine.query id sql (run { startupError } earlier)).1 = .ok output)
    (hreached : w.engine = run { startupError } (earlier ++ .query id sql :: later))
    (hlive : w.engine.results.contains output.id = true) :
    (∀ k failure left,
        FailsFirst w.engine.lookupsBeforeFailure output.columns k failure left →
        ∃ e, create output options w = (.error failure, { w with engine := e })
          ∧ RolledBack w.engine e output left)
      ∧ ((∀ k failure left, ¬ FailsAt w.engine.lookupsBeforeFailure output.columns k failure left) →
        ∃ columns e, create output options w
            = (.ok ⟨output.id, output.rowCount, columns, options⟩, { w with engine := e })
          ∧ List.Forall₂ (BoundTo w.engine) output.columns columns
          ∧ AllHeld w.engine e output) := by
  have hc : w.engine.Consistent := hreached ▸ consistent_run startupError _
  have hids : w.engine.results.get output.id = some (output.columns.map ColumnDescription.id) := by
    rw [hreached, run_append] at hlive ⊢
    exact get_results_of_query hquery hlive
  have hthere : ∀ d ∈ output.columns, w.engine.columns.contains d.id = true := fun d hd =>
    hc.complete output.id _ hids d.id (List.mem_map_of_mem hd)
  have hnothing : w.engine = w.engine.taken (boundIds []) := (taken_nil w.engine).symm
  constructor
  · intro k failure left hfails
    have hbind := bindColumns_of_failsFirst hthere hnothing hfails
    have hdiscard := discardOutput_of_get
      (w := { w with engine := { w.engine with lookupsBeforeFailure := left } }) hids
    refine ⟨_, bind_apply_of_error (onFailure_of_error hbind hdiscard), ?_⟩
    exact rolledBack_cleanedUp hc.distinct hlive left
  · intro hfits
    obtain ⟨columns, hcolumns, hbind⟩ := exists_bindColumns_of_not_fails hthere hnothing hfits
    refine ⟨columns, _, (bind_apply_of_ok (onFailure_of_ok hbind)).trans rfl, hcolumns, ?_⟩
    exact allHeld_taken (hc.distinct.ids_nodup _ _ hids)

/-- The second of three references is refused.  The first column, which somebody else holds, stays. -/
theorem create_allOrNothing_secondRefused :
    let column : Column := ⟨.int, #[(7 : Int32)], ⟨false, true, true, true⟩, rfl⟩
    let result : ScriptedResult :=
      { kind := .table
        columns := [⟨"a", "int", 32, 0, column⟩, ⟨"b", "int", 32, 0, column⟩, ⟨"c", "int", 32, 0, column⟩] }
    let earlier : List Call := [.script "q" result, .startup {}, .connect]
    let later : List Call := [.fixColumn 3, .failColumnLookup 1]
    let new : MemoryEngine := {}
    let output := (new.run earlier).output result
    let w : Embedding MemoryEngine := { engine := new.run (earlier ++ .query 1 "q" :: later) }
    ∃ e, create output {} w = (.error (.ofEngine (noColumn 4)), { w with engine := e })
      ∧ RolledBack w.engine e output none
      ∧ e.fixCount 3 = 1
      ∧ e.columns.contains 3 = true
      ∧ e.columns.contains 5 = false := by
  intro column result earlier later new output w
  have hcolumns : output.columns
      = [⟨"a", "int", 32, 0, 3⟩, ⟨"b", "int", 32, 0, 4⟩, ⟨"c", "int", 32, 0, 5⟩] := by
    decide +kernel
  have hlookups : w.engine.lookupsBeforeFailure = some 1 := by decide +kernel
  have hmapped : LogicalType.ofSql "int" 32 0 = .ok .int := by rfl
  have hfails : FailsFirst w.engine.lookupsBeforeFailure output.columns 1 (.ofEngine (noColumn 4)) none := by
    rw [hcolumns, hlookups]
    refine ⟨.refused (d := ⟨"b", "int", 32, 0, 4⟩) rfl hmapped rfl, fun i hi failure left hfails => ?_⟩
    obtain rfl := Nat.lt_one_iff.mp hi
    rcases hfails with ⟨hd, herror⟩ | ⟨-, -, hk⟩
    · obtain rfl := Option.some.inj hd
      cases hmapped.symm.trans herror
    · cases hk
  obtain ⟨e, hcreate, hback⟩ := (create_allOrNothing none earlier later 1 "q" output {} w (by rfl) rfl
    (by decide +kernel)).1 1 _ none hfails
  have hheld : w.engine.fixCount 3 = 1 := by decide +kernel
  have hthere : w.engine.columns.contains 3 = true := by decide +kernel
  have hfree : w.engine.fixCount 5 = 0 := by decide +kernel
  refine ⟨e, hcreate, hback, (hback.fixCount_eq 3).trans hheld, ?_, ?_⟩
  · rw [Ledger.contains, hback.get_column, if_neg fun h => by simp [hheld] at h]
    exact hthere
  · rw [Ledger.contains, hback.get_column, if_pos ⟨by simp [hcolumns], hfree⟩]
    rfl

end ResultSet

end ColumnBridge
