import ColumnBridge.Proofs.Engine.Outputs
import ColumnBridge.Proofs.Session.Links
import ColumnBridge.Session.Database
import ColumnBridge.Session.Table

/-!
What the steps of a session do to the outputs of an engine in memory.

* `ResultSet.held`: the output behind a result set, each column fixed once;
* `SessionM.Spares`: a step that leaves all outputs as they are, and all steps that are no statements;
* `ResultSet.ends_create`, `ResultSet.ends_free`, `ResultSet.ends_drop`: an output becomes a result set
  or goes, and a result set goes;
* `Connection.Gives` and `Connection.gives_of_settles`: a statement leaves the outputs of the result sets
  that it gives, on every way out, since what is done with its output does (`Connection.Settles`).
-/

namespace ColumnBridge

open MemoryEngine

/-! ### Steps that are no statements -/

namespace SessionM

variable {α β : Type}

/-- A step leaves the outputs of the engine as they are, whether it returns or fails. -/
def Spares (step : SessionM MemoryEngine α) : Prop :=
  ∀ w, Ends step w (fun _ t => Undisturbed w.engine t.engine) fun t => Undisturbed w.engine t.engine

instance : IsPreorder (Embedding MemoryEngine) fun w t => Undisturbed w.engine t.engine where
  refl w := .refl w.engine
  trans _ _ _ := .trans

lemma spares_modify {f : Embedding MemoryEngine → Embedding MemoryEngine}
    (hf : ∀ w, (f w).engine = w.engine) : Spares (modify f) := by
  intro w
  rw [ends_modify, hf]
  exact .refl w.engine

lemma spares_onEngine {call : EngineM MemoryEngine α} (h : MemoryEngine.Spares call) :
    Spares (onEngine call) := Keeps.onEngine h id

lemma spares_quietly {call : EngineM MemoryEngine Unit} (h : Keeps Quiet call) :
    Spares (quietly call) := Keeps.quietly h .of_quiet

lemma spares_onQuiet {call : EngineM MemoryEngine α} (h : Keeps Quiet call) :
    Spares (onEngine call) := Keeps.onEngine h .of_quiet

end SessionM

open SessionM

namespace Database

lemma spares_start (settings : Settings) : Spares (start settings) := by
  refine Keeps.bind Keeps.get fun w => ?_
  refine Keeps.ite (Keeps.bind (Keeps.throw _) fun _ => ?_) ?_ <;>
  · refine Keeps.bind (spares_onQuiet (quiets_startup _)) fun _ => ?_
    refine Keeps.bind Keeps.get fun _ => ?_
    exact Keeps.bind (spares_modify fun _ => rfl) fun _ => Keeps.pure _

lemma spares_stop (db : Database) : Spares db.stop := by
  have hend : Spares (do
      if !isRunning (← get) then throw .notRunning
      onEngine StorageEngine.shutdown : SessionM MemoryEngine Unit) := by
    refine Keeps.bind Keeps.get fun w => ?_
    exact Keeps.ite (Keeps.bind (Keeps.throw _) fun _ => spares_onQuiet quiets_shutdown)
      (spares_onQuiet quiets_shutdown)
  refine Keeps.bind Keeps.get fun w => ?_
  refine Keeps.ite (Keeps.bind (Keeps.throw _) fun _ => ?_) ?_ <;>
  · refine Keeps.bind Keeps.get fun _ => ?_
    refine Keeps.bind (spares_modify fun w => w.engine_closeKept db.id) fun _ => ?_
    exact Keeps.bind (Keeps.forM (fun id => spares_quietly (quiets_disconnect id)) _) fun _ => hend

lemma spares_connect (db : Database) : Spares db.connect := by
  refine Keeps.bind Keeps.get fun w => ?_
  refine Keeps.ite (Keeps.bind (Keeps.throw _) fun _ => ?_) ?_ <;>
  · refine Keeps.bind (spares_onEngine MemoryEngine.spares_connect) fun id => ?_
    refine Keeps.bind (Keeps.onFailure (spares_onQuiet (quiets_changeSession id _))
      (spares_quietly (quiets_disconnect id))) fun _ => ?_
    refine Keeps.bind Keeps.get fun _ => ?_
    exact Keeps.bind (spares_modify fun _ => rfl) fun _ => Keeps.pure _

end Database

namespace Connection

variable (c : Connection)

lemma spares_withSession {α : Type} {call : SessionId → EngineM MemoryEngine α}
    (h : ∀ id, Keeps Quiet (call id)) : Spares (c.withSession call) := by
  refine Keeps.bind Keeps.get fun w => ?_
  split
  · exact spares_onQuiet (h _)
  · exact Keeps.throw _

lemma spares_autocommit : Spares c.autocommit := c.spares_withSession quiets_autocommit

lemma spares_setAutocommit (enabled : Bool) : Spares (c.setAutocommit enabled) :=
  c.spares_withSession fun id => quiets_changeSession id _

lemma spares_setReplySize (size : ℕ) : Spares (c.setReplySize size) :=
  c.spares_withSession fun id => quiets_changeSession id _

lemma spares_releasePrepared (statement : Int64) : Spares (c.releasePrepared statement) :=
  c.spares_withSession fun id => quiets_releasePrepared id statement

lemma spares_closeResult (result : Int64) : Spares (c.closeResult result) :=
  c.spares_withSession fun id => quiets_closeResult id result

lemma spares_table (schema name : String) : Spares (c.table schema name) :=
  Keeps.bind (c.spares_withSession fun id => quiets_table id schema name) fun _ =>
    Keeps.pure _

lemma spares_close : Spares c.close := by
  refine Keeps.bind Keeps.get fun w => ?_
  split
  · exact Keeps.pure _
  · exact Keeps.bind (spares_modify fun _ => rfl) fun _ => spares_onQuiet (quiets_disconnect _)

end Connection

lemma Table.spares_columns (t : Table) : Spares t.columns :=
  t.connection.spares_withSession fun id => quiets_table id t.schema t.name

lemma Table.spares_append (t : Table) (arrays : List AppendArray) : Spares (t.append arrays) := by
  refine Keeps.bind t.spares_columns fun columns => ?_
  refine Keeps.ite (Keeps.bind (Keeps.throw _) fun _ => ?_) ?_ <;>
  · refine Keeps.bind (Keeps.liftM _) fun built => ?_
    refine Keeps.bind (t.connection.spares_withSession fun id => ?_) fun _ => Keeps.pure _
    exact quiets_append id t.schema t.name built

/-! ### Result sets -/

/-- What the ledger of columns says about a bound column. -/
def BoundColumn.entry (fixes : ℕ) (c : BoundColumn) : ColumnId × HeldColumn :=
  (c.guard.id, { column := c.guard.column, fixes := fixes })

/-- The output behind a result set: each column is fixed once. -/
def ResultSet.held (rs : ResultSet) : HeldOutput := ⟨rs.id, rs.columns.map (BoundColumn.entry 1)⟩

section Life

variable {w : Embedding MemoryEngine} {a b outputs : List HeldOutput} {r : ResultId}
  {x y columns : List (ColumnId × HeldColumn)} {n : ℕ}

/-- No column is fixed any more when all references are given back. -/
lemma fixes_map_entry_zero (columns : List BoundColumn) :
    ∀ c ∈ columns.map (BoundColumn.entry 0), c.2.fixes = 0 := by
  intro c hc
  obtain ⟨column, -, rfl⟩ := List.mem_map.mp hc
  rfl

/-- Giving columns back takes one reference from each of them. -/
lemma ends_releaseColumns (columns : List BoundColumn)
    (h : w.engine.Accounts (a ++ ⟨r, x ++ (columns.map (BoundColumn.entry 1) ++ y)⟩ :: b) n) :
    Ends (releaseColumns columns) w
      (fun _ t => t.engine.Accounts
        (a ++ ⟨r, x ++ (columns.map (BoundColumn.entry 0) ++ y)⟩ :: b) n)
      fun _ => False := by
  induction columns generalizing w x with
  | nil => exact h
  | cons c columns ih =>
    refine ends_bind.mpr (ends_quietly.mpr (ends_modify.mpr ?_))
    have hfirst : Accounts (w.engine.unfixColumn c.guard.id)
        (a ++ ⟨r, (x ++ [c.entry 0]) ++ (columns.map (BoundColumn.entry 1) ++ y)⟩ :: b) n := by
      rw [List.append_assoc]
      exact h.unfix
    refine (ih (w := { w with engine := w.engine.unfixColumn c.guard.id }) hfirst).mono ?_ fun _ => id
    intro _ t ht
    rwa [List.append_assoc] at ht

/-- Binding a described column takes one reference to it, or changes nothing. -/
lemma BoundColumn.ends_bind (d : ColumnDescription) {held : HeldColumn} (hfree : held.fixes = 0)
    (h : w.engine.Accounts (a ++ ⟨r, x ++ (d.id, held) :: y⟩ :: b) n) :
    Ends (BoundColumn.bind d) w
      (fun c t => t.engine.Accounts (a ++ ⟨r, x ++ c.entry 1 :: y⟩ :: b) n)
      fun t => t.engine.Accounts (a ++ ⟨r, x ++ (d.id, held) :: y⟩ :: b) n := by
  refine ColumnBridge.ends_bind.mpr (ends_liftM (fun logical _ => ?_) h)
  refine ColumnBridge.ends_bind.mpr (ends_onEngine.mpr (ColumnBridge.ends_bind.mpr ?_))
  refine (ends_fixColumn h).mono ?_ fun _ => id
  rintro column e ⟨rfl, he⟩
  rw [hfree] at he
  exact he

/-- Binding columns binds all of them, or gives all of them back. -/
lemma ends_bindColumns (bound : List BoundColumn) (ds : List ColumnDescription)
    (hids : columns.map Prod.fst = ds.map ColumnDescription.id)
    (hfree : ∀ c ∈ columns, c.2.fixes = 0)
    (h : w.engine.Accounts (a ++ ⟨r, bound.map (BoundColumn.entry 1) ++ columns⟩ :: b) n) :
    Ends (bindColumns bound ds) w
      (fun all t => t.engine.Accounts (a ++ ⟨r, all.map (BoundColumn.entry 1)⟩ :: b) n)
      fun t => ∃ free : List (ColumnId × HeldColumn), (∀ c ∈ free, c.2.fixes = 0)
        ∧ t.engine.Accounts (a ++ ⟨r, free⟩ :: b) n := by
  induction ds generalizing w bound columns with
  | nil =>
    obtain rfl : columns = [] := List.map_eq_nil_iff.mp hids
    rwa [List.append_nil] at h
  | cons d ds ih =>
    obtain ⟨⟨id, held⟩, rest, rfl, rfl, hrest⟩ := List.map_eq_cons_iff.mp hids
    have hheld : held.fixes = 0 := hfree _ List.mem_cons_self
    refine ColumnBridge.ends_bind.mpr (ends_onFailure.mpr ?_)
    refine (BoundColumn.ends_bind d hheld h).mono ?_ ?_
    · intro c t ht
      have hbound : t.engine.Accounts
          (a ++ ⟨r, (bound ++ [c]).map (BoundColumn.entry 1) ++ rest⟩ :: b) n := by
        rwa [List.map_append, List.append_assoc]
      exact ih (bound ++ [c]) hrest (fun c hc => hfree c (List.mem_cons_of_mem _ hc)) hbound
    · intro t ht
      have hback := ends_releaseColumns (x := []) bound ht
      refine hback.mono (fun _ u hu => ⟨_, ?_, hu⟩) fun _ => False.elim
      intro c hc
      rw [List.nil_append] at hc
      rcases List.mem_append.mp hc with hc | hc
      · exact fixes_map_entry_zero bound c hc
      · exact hfree c hc

/-- Cleaning an output up that nobody holds takes it out, loudly or quietly. -/
lemma ends_discardOutput {o : HeldOutput} (h : w.engine.Accounts (a ++ o :: b) n)
    (hfree : ∀ c ∈ o.columns, c.2.fixes = 0) :
    Ends (discardOutput o.id) w (fun _ t => t.engine.Accounts (a ++ b) n) fun _ => False :=
  ends_quietly.mpr ((ends_cleanupResult h hfree).mono (fun _ _ => id) fun _ => False.elim)

namespace ResultSet

/-- An output becomes the output of a result set, or goes. -/
lemma ends_create (output : QueryOutput) (options : MarshalOptions)
    (hids : columns.map Prod.fst = output.columns.map ColumnDescription.id)
    (hfree : ∀ c ∈ columns, c.2.fixes = 0)
    (h : w.engine.Accounts (outputs ++ [⟨output.id, columns⟩]) n) :
    Ends (create output options) w
      (fun rs t => t.engine.Accounts (outputs ++ [rs.held]) n)
      fun t => t.engine.Accounts outputs n := by
  refine ends_bind.mpr (ends_onFailure.mpr ?_)
  refine (ends_bindColumns [] output.columns hids hfree h).mono (fun _ _ h => h) ?_
  rintro t ⟨free, hzero, ht⟩
  refine (ends_discardOutput ht hzero).mono (fun _ u hu => ?_) fun _ => False.elim
  rwa [List.append_nil] at hu

/-- The columns of a result set are given back. -/
lemma ends_release (rs : ResultSet) (h : w.engine.Accounts (a ++ rs.held :: b) n) :
    Ends (releaseColumns rs.columns) w
      (fun _ t => t.engine.Accounts (a ++ ⟨rs.id, rs.columns.map (BoundColumn.entry 0)⟩ :: b) n)
      fun _ => False := by
  have hpad : w.engine.Accounts
      (a ++ ⟨rs.id, [] ++ (rs.columns.map (BoundColumn.entry 1) ++ [])⟩ :: b) n := by
    rwa [List.append_nil]
  refine (ends_releaseColumns rs.columns hpad).mono (fun _ t ht => ?_) fun _ h => h
  rwa [List.append_nil] at ht

/-- Freeing a result set takes its output out. -/
lemma ends_free (rs : ResultSet) (h : w.engine.Accounts (a ++ rs.held :: b) n) :
    Ends rs.free w (fun _ t => t.engine.Accounts (a ++ b) n) fun _ => False := by
  refine ends_bind.mpr ((rs.ends_release h).mono (fun _ t ht => ?_) fun _ h => h)
  have hclean := ends_cleanupResult ht (fixes_map_entry_zero rs.columns)
  exact ends_onEngine.mpr hclean

/-- So does dropping it. -/
lemma ends_drop (rs : ResultSet) (h : w.engine.Accounts (a ++ rs.held :: b) n) :
    Ends rs.drop w (fun _ t => t.engine.Accounts (a ++ b) n) fun _ => False := by
  refine ends_bind.mpr ((rs.ends_release h).mono (fun _ t ht => ?_) fun _ h => h)
  have hgone := ends_discardOutput ht (fixes_map_entry_zero rs.columns)
  exact hgone

end ResultSet

/-! ### Statements -/

namespace Connection

/-- What is done with the output of a statement leaves the outputs of the result sets that it gives, and
none if it fails. -/
def Settles {α : Type} (finish : QueryOutput → SessionM MemoryEngine α)
    (gives : α → List ResultSet) : Prop :=
  ∀ {w : Embedding MemoryEngine} {outputs : List HeldOutput} {output : QueryOutput}
    {columns : List (ColumnId × HeldColumn)} {n : ℕ},
    columns.map Prod.fst = output.columns.map ColumnDescription.id →
    (∀ c ∈ columns, c.2.fixes = 0) →
    w.engine.Accounts (outputs ++ [⟨output.id, columns⟩]) n →
    Ends (finish output) w
      (fun a t => t.engine.Accounts (outputs ++ (gives a).map ResultSet.held) n)
      fun t => t.engine.Accounts outputs n

/-- How many outputs the engine produces for a statement: one, unless it refuses. -/
def produces (c : Connection) (sql : String) (w : Embedding MemoryEngine) : ℕ :=
  match (c.execute sql w).1 with
  | .ok _ => 1
  | .error _ => 0

/-- A step that runs one statement adds the outputs of the result sets that it gives, and every other
output that the engine produced for it is cleaned up, whatever way out it takes. -/
def Gives {α : Type} (c : Connection) (sql : String) (step : SessionM MemoryEngine α)
    (gives : α → List ResultSet) : Prop :=
  ∀ {w : Embedding MemoryEngine} {outputs : List HeldOutput} {n : ℕ}, w.engine.Accounts outputs n →
    Ends step w
      (fun a t => t.engine.Accounts (outputs ++ (gives a).map ResultSet.held)
        (n + c.produces sql w))
      fun t => t.engine.Accounts outputs (n + c.produces sql w)

variable {α : Type} (c : Connection)

lemma ends_refuse {output : QueryOutput} (e : SessionError) {done : α → Embedding MemoryEngine → Prop}
    (hfree : ∀ c ∈ columns, c.2.fixes = 0)
    (h : w.engine.Accounts (outputs ++ [⟨output.id, columns⟩]) n) :
    Ends (refuse output e) w done fun t => t.engine.Accounts outputs n := by
  refine ends_bind.mpr ((ends_discardOutput h hfree).mono (fun _ t ht => ?_) fun _ => False.elim)
  rwa [List.append_nil] at ht

lemma ends_cleanup {output : QueryOutput} {done : Unit → Embedding MemoryEngine → Prop}
    (hfree : ∀ c ∈ columns, c.2.fixes = 0)
    (h : w.engine.Accounts (outputs ++ [⟨output.id, columns⟩]) n)
    (hdone : ∀ t : Embedding MemoryEngine, t.engine.Accounts outputs n → done () t) :
    Ends (cleanup output) w done fun t => t.engine.Accounts outputs n := by
  refine ends_onEngine.mpr ((ends_cleanupResult h hfree).mono (fun _ e he => ?_) fun _ => False.elim)
  rw [List.append_nil] at he
  exact hdone { w with engine := e } he

lemma settles_bind : Settles c.bind fun rs => [rs] := by
  intro w outputs output columns n hids hfree h
  rw [bind]
  split_ifs
  · exact ends_refuse _ hfree h
  · exact ResultSet.ends_create output c.options hids hfree h

/-- The engine refuses a statement without a trace, or leaves an output that nobody holds. -/
lemma ends_execute (sql : String) (h : w.engine.Accounts outputs n) :
    Ends (c.execute sql) w
      (fun output t => ∃ columns : List (ColumnId × HeldColumn),
        columns.map Prod.fst = output.columns.map ColumnDescription.id
          ∧ (∀ c ∈ columns, c.2.fixes = 0)
          ∧ t.engine.Accounts (outputs ++ [⟨output.id, columns⟩]) (n + 1))
      fun t => t.engine.Accounts outputs n := by
  refine ends_bind.mpr (ends_get.mpr ?_)
  split
  · exact ends_onEngine.mpr (ends_query h _ sql)
  · exact h

/-- A statement whose output is settled gives what settling it gives. -/
lemma gives_of_settles {finish : QueryOutput → SessionM MemoryEngine α} {gives : α → List ResultSet}
    (hfinish : Settles finish gives) (sql : String) :
    c.Gives sql (c.execute sql >>= finish) gives := by
  intro w outputs n h
  refine ends_bind.mpr ((c.ends_execute sql h).remember.mono ?_ ?_)
  · rintro output t ⟨hstep, columns, hids, hfree, ht⟩
    have hone : c.produces sql w = 1 := by
      rw [produces, hstep]
    rw [hone]
    exact hfinish hids hfree ht
  · rintro t ⟨⟨e, hstep⟩, ht⟩
    have hzero : c.produces sql w = 0 := by
      rw [produces, hstep]
    rwa [hzero]

theorem gives_query (sql : String) : c.Gives sql (c.query sql) fun rs => [rs] := by
  refine c.gives_of_settles ?_ sql
  intro w outputs output columns n hids hfree h
  refine ends_ite.mpr ⟨fun _ => c.settles_bind hids hfree h, fun _ => ends_refuse _ hfree h⟩

theorem gives_update (sql : String) : c.Gives sql (c.update sql) fun _ => [] := by
  refine c.gives_of_settles ?_ sql
  intro w outputs output columns n hids hfree h
  refine ends_bind.mpr (ends_cleanup hfree h fun t ht => ?_)
  rwa [ends_pure, List.map_nil, List.append_nil]

theorem gives_prepare (sql : String) : c.Gives sql (c.prepare sql) fun p => [p.parameters] := by
  refine c.gives_of_settles ?_ sql
  intro w outputs output columns n hids hfree h
  beta_reduce
  split
  · exact ends_bind.mpr (c.settles_bind hids hfree h)
  · exact ends_refuse _ hfree h

/-- The result sets of the execution of a prepared statement. -/
def givenByOutcome : ExecOutcome → List ResultSet
  | .resultSet rs => [rs]
  | .updateCount _ => []

theorem gives_executePrepared (sql : String) :
    c.Gives sql (c.executePrepared sql) givenByOutcome := by
  refine c.gives_of_settles ?_ sql
  intro w outputs output columns n hids hfree h
  refine ends_ite.mpr ⟨fun _ => ?_, fun _ => ?_⟩
  · exact ends_bind.mpr (ResultSet.ends_create output c.options hids hfree h)
  · refine ends_bind.mpr (ends_cleanup hfree h fun t ht => ?_)
    rwa [ends_pure, givenByOutcome, List.map_nil, List.append_nil]

theorem gives_executeAndIgnore (sql : String) :
    c.Gives sql (c.executeAndIgnore sql) fun _ => [] := by
  refine c.gives_of_settles ?_ sql
  intro w outputs output columns n hids hfree h
  refine ends_cleanup hfree h fun t ht => ?_
  rwa [List.map_nil, List.append_nil]

end Connection

end Life

end ColumnBridge
