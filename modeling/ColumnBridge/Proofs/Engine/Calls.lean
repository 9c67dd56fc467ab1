import ColumnBridge.Proofs.Engine.Quiet
import ColumnBridge.Proofs.Session.Lifecycle

/-!
Calls on an engine in memory, in any order.

* `MemoryEngine.Call`, `MemoryEngine.step`, `MemoryEngine.run`: the calls, each of which may fail;
* `MemoryEngine.issued`, `MemoryEngine.outputs`, `MemoryEngine.tally`: the numbers that calls give out, the
  outputs that they leave, and how they count the references to a column;
* `MemoryEngine.Effect`, `MemoryEngine.effect_step`: everything that a call can do to outputs, columns and
  sessions.
-/

namespace ColumnBridge

/-- The number of an output and the numbers of its columns. -/
def QueryOutput.handles (o : QueryOutput) : List ℕ := o.id :: o.columns.map ColumnDescription.id

namespace MemoryEngine

/-! ### Calls in any order -/

/-- What can be done with an engine. -/
inductive Call
  | script (sql : String) (result : ScriptedResult)
  | createTable (schema name : String) (columns : List TableColumn)
  | failColumnLookup (successes : ℕ)
  | failNextAppend (message : String)
  | startup (options : StartupOptions)
  | shutdown
  | connect
  | disconnect (id : SessionId)
  | autocommit (id : SessionId)
  | setAutocommit (id : SessionId) (enabled : Bool)
  | setReplySize (id : SessionId) (size : ℕ)
  | query (id : SessionId) (sql : String)
  | cleanupResult (id : ResultId)
  | closeResult (id : SessionId) (result : Int64)
  | releasePrepared (id : SessionId) (statement : Int64)
  | table (id : SessionId) (schema name : String)
  | append (id : SessionId) (schema name : String) (columns : List Column)
  | fixColumn (id : ColumnId)
  | unfixColumn (id : ColumnId)

section Calls

variable {α β : Type}

/-- An engine after a call that returns or fails. -/
def after (e : MemoryEngine) (call : EngineM MemoryEngine α) : MemoryEngine := (call e).2

/-- What a call gives if it returns, and nothing if it fails. -/
def given (e : MemoryEngine) (call : EngineM MemoryEngine α) (each : α → List β) : List β :=
  match (call e).1 with
  | .ok a => each a
  | .error _ => []

/-- An engine after one call. -/
def step (e : MemoryEngine) : Call → MemoryEngine
  | .script sql result => e.script sql result
  | .createTable schema name columns => e.createTable schema name columns
  | .failColumnLookup successes => e.failColumnLookup successes
  | .failNextAppend message => e.failNextAppend message
  | .startup options => e.after (StorageEngine.startup options)
  | .shutdown => e.after StorageEngine.shutdown
  | .connect => e.after StorageEngine.connect
  | .disconnect id => e.after (StorageEngine.disconnect id)
  | .autocommit id => e.after (StorageEngine.autocommit id)
  | .setAutocommit id enabled => e.after (StorageEngine.setAutocommit id enabled)
  | .setReplySize id size => e.after (StorageEngine.setReplySize id size)
  | .query id sql => e.after (StorageEngine.query id sql)
  | .cleanupResult id => e.after (StorageEngine.cleanupResult id)
  | .closeResult id result => e.after (StorageEngine.closeResult id result)
  | .releasePrepared id statement => e.after (StorageEngine.releasePrepared id statement)
  | .table id schema name => e.after (StorageEngine.table id schema name)
  | .append id schema name columns => e.after (StorageEngine.append id schema name columns)
  | .fixColumn id => e.after (StorageEngine.fixColumn id)
  | .unfixColumn id => StorageEngine.unfixColumn id e

/-- An engine after some calls. -/
def run (e : MemoryEngine) (calls : List Call) : MemoryEngine := calls.foldl step e

/-- What is collected from some calls, each on the engine as the calls before leave it. -/
def collect (each : MemoryEngine → Call → List β) : MemoryEngine → List Call → List β
  | _, [] => []
  | e, call :: calls => each e call ++ collect each (e.step call) calls

/-- The numbers that a call gives out. -/
def issued (e : MemoryEngine) : Call → List ℕ
  | .connect => e.given StorageEngine.connect fun id => [id]
  | .query id sql => e.given (StorageEngine.query id sql) QueryOutput.handles
  | _ => []

/-- The outputs that a call leaves. -/
def outputs (e : MemoryEngine) : Call → List QueryOutput
  | .query id sql => e.given (StorageEngine.query id sql) fun o => [o]
  | _ => []

/-- The references to a column after a call: one more where one is taken, and one less, if there is any,
where one is given back. -/
def counted (key : ColumnId) (e : MemoryEngine) (fixes : ℕ) : Call → ℕ
  | .fixColumn id => if id = key then fixes + (e.given (StorageEngine.fixColumn id) fun c => [c]).length
      else fixes
  | .unfixColumn id => if id = key then fixes - 1 else fixes
  | _ => fixes

/-- The references to a column after some calls. -/
def tally (key : ColumnId) : MemoryEngine → ℕ → List Call → ℕ
  | _, fixes, [] => fixes
  | e, fixes, call :: calls => tally key (e.step call) (e.counted key fixes call) calls

end Calls

variable {e e' : MemoryEngine}

lemma run_append (e : MemoryEngine) (a b : List Call) : e.run (a ++ b) = (e.run a).run b :=
  List.foldl_append

section Outcome

variable {α β : Type} {call : EngineM MemoryEngine α}

lemma after_eq {r : Except EngineError α} (h : call e = (r, e')) : e.after call = e' :=
  congrArg Prod.snd h

lemma given_of_ok {a : α} (h : call e = (.ok a, e')) (each : α → List β) :
    e.given call each = each a := by
  rw [given, h]

lemma given_of_error {error : EngineError} (h : call e = (.error error, e')) (each : α → List β) :
    e.given call each = [] := by
  rw [given, h]

end Outcome

/-! ### What a call does -/

/-- Everything that a call can do to the numbers of an engine, with the numbers that it gives out. -/
inductive Effect (e : MemoryEngine) : Call → List ℕ → MemoryEngine → Prop
  /-- Neither outputs nor columns change, and no reference is counted. -/
  | quiet {call : Call} {e' : MemoryEngine} (h : Quiet e e')
      (hcounted : ∀ key fixes, e.counted key fixes call = fixes) : Effect e call [] e'
  | session : Effect e .connect [e.lastHandle + 1]
      { e with
        lastHandle := e.lastHandle + 1
        sessions := e.sessions.insert (e.lastHandle + 1) {} }
  | output (id : SessionId) (sql : String) (result : ScriptedResult) :
      Effect e (.query id sql) (e.output result).handles (e.afterQuery result)
  /-- There is no output to clean up. -/
  | missed (id : ResultId) : Effect e (.cleanupResult id) [] { e with cleanups := e.cleanups + 1 }
  | cleaned (id : ResultId) (ids : List ColumnId) (h : e.results.get id = some ids) :
      Effect e (.cleanupResult id) []
        { e with
          cleanups := e.cleanups + 1
          results := e.results.erase id
          columns := ⟨e.columns.entries.filter fun c => !isUnheld ids c⟩ }
  | fixed (id : ColumnId) {e' : MemoryEngine} (h : Quiet e e')
      (hcounted : ∀ fixes, e.counted id fixes (.fixColumn id) = fixes + 1) :
      Effect e (.fixColumn id) []
        { e' with columns := e'.columns.modify id fun c => { c with fixes := c.fixes + 1 } }
  | unfixed (id : ColumnId) : Effect e (.unfixColumn id) [] (e.unfixColumn id)

/-- On an open session a statement is answered by what is registered without the blanks around it. -/
lemma query_of_session {id : SessionId} {s : EngineSession} (h : e.sessions.get id = some s)
    (sql : String) :
    query id sql e = match e.scripts.get (Text.trim sql) with
      | none => (.error (badStatement sql), e)
      | some result => (.ok (e.output result), e.afterQuery result) := by
  rw [query, bind_apply_of_ok (session_of_get h), get_bind_apply]
  cases e.scripts.get (Text.trim sql) <;> rfl

/-- A statement fails without a trace, or leaves its output. -/
lemma query_cases (e : MemoryEngine) (id : SessionId) (sql : String) :
    (∃ error, query id sql e = (.error error, e))
      ∨ ∃ result, e.scripts.get (Text.trim sql) = some result
          ∧ query id sql e = (.ok (e.output result), e.afterQuery result) := by
  cases hsession : e.sessions.get id with
  | none => exact .inl ⟨_, bind_apply_of_error (session_of_none hsession)⟩
  | some s =>
    rw [query_of_session hsession]
    cases hscript : e.scripts.get (Text.trim sql) with
    | none => exact .inl ⟨_, rfl⟩
    | some result => exact .inr ⟨result, rfl, rfl⟩

/-- A statement that returns is registered, and leaves its output. -/
lemma exists_query_of_ok {id : SessionId} {sql : String} {output : QueryOutput}
    (h : (StorageEngine.query id sql e).1 = .ok output) :
    ∃ result, e.output result = output ∧ query id sql e = (.ok output, e.afterQuery result) := by
  rcases query_cases e id sql with ⟨error, hfail⟩ | ⟨result, -, hok⟩
  · exact absurd ((congrArg Prod.fst hfail).symm.trans h) (by simp)
  · obtain rfl : e.output result = output := Except.ok.inj ((congrArg Prod.fst hok).symm.trans h)
    exact ⟨result, rfl, hok⟩

/-- A reference is refused quietly, or is to a column that is there. -/
lemma fixColumn_cases (e : MemoryEngine) (id : ColumnId) :
    (∃ error e', fixColumn id e = (.error error, e') ∧ Quiet e e')
      ∨ ∃ held e', e.columns.get id = some held ∧ Quiet e e'
          ∧ fixColumn id e = (.ok held.column,
            { e' with columns := e'.columns.modify id fun c => { c with fixes := c.fixes + 1 } }) := by
  have hends := quiets_countLookup id e
  rw [fixColumn]
  rcases hcount : countLookup id e with ⟨error | u, e'⟩
  · exact .inl ⟨error, e', bind_apply_of_error hcount, (ends_iff_of_error hcount).mp hends⟩
  · have hquiet := (ends_iff_of_ok hcount).mp hends
    rw [bind_apply_of_ok hcount, get_bind_apply, ← hquiet.columns_eq]
    cases hget : e'.columns.get id with
    | none => exact .inl ⟨_, e', rfl, hquiet⟩
    | some held => exact .inr ⟨held, e', rfl, hquiet, rfl⟩

/-- **What a call does.** -/
theorem effect_step (e : MemoryEngine) (call : Call) : Effect e call (e.issued call) (e.step call) := by
  have hquiet : ∀ {call : Call}, (∀ key fixes, e.counted key fixes call = fixes) →
      e.issued call = [] → Quiet e (e.step call) → Effect e call (e.issued call) (e.step call) :=
    fun hcounted hissued h => hissued ▸ .quiet h hcounted
  cases call with
  | script | createTable | failColumnLookup | failNextAppend =>
    exact hquiet (fun _ _ => rfl) rfl (.of_sessions_eq rfl rfl rfl rfl rfl)
  | startup options => exact hquiet (fun _ _ => rfl) rfl ((quiets_startup options).snd e)
  | shutdown => exact hquiet (fun _ _ => rfl) rfl (quiets_shutdown.snd e)
  | connect =>
    by_cases h : e.initialized = true
    · have hok := connect_of_initialized h
      rw [show e.issued .connect = [e.lastHandle + 1] from given_of_ok hok _,
        show e.step .connect = _ from after_eq hok]
      exact .session
    · have hfail : connect e = (.error (notStarted "connect"), e) := by
        rw [connect, get_bind_apply, if_neg h]
        rfl
      refine hquiet (fun _ _ => rfl) (given_of_error hfail _) ?_
      rw [show e.step .connect = e from after_eq hfail]
      exact .refl e
  | disconnect id => exact hquiet (fun _ _ => rfl) rfl ((quiets_disconnect id).snd e)
  | autocommit id => exact hquiet (fun _ _ => rfl) rfl ((quiets_autocommit id).snd e)
  | setAutocommit id enabled => exact hquiet (fun _ _ => rfl) rfl ((quiets_changeSession id _).snd e)
  | setReplySize id size => exact hquiet (fun _ _ => rfl) rfl ((quiets_changeSession id _).snd e)
  | query id sql =>
    rcases query_cases e id sql with ⟨error, hfail⟩ | ⟨result, -, hok⟩
    · refine hquiet (fun _ _ => rfl) (given_of_error hfail _) ?_
      rw [show e.step (.query id sql) = e from after_eq hfail]
      exact .refl e
    · rw [show e.issued (.query id sql) = (e.output result).handles from given_of_ok hok _,
        show e.step (.query id sql) = e.afterQuery result from after_eq hok]
      exact .output id sql result
  | cleanupResult id =>
    have hstep : e.step (.cleanupResult id) = e.after (cleanupResult id) := rfl
    rw [hstep, after, cleanupResult, modify_bind_apply, get_bind_apply]
    cases hget : e.results.get id with
    | none => exact .missed id
    | some ids => exact .cleaned id ids hget
  | closeResult id result => exact hquiet (fun _ _ => rfl) rfl ((quiets_closeResult id result).snd e)
  | releasePrepared id statement =>
    exact hquiet (fun _ _ => rfl) rfl ((quiets_releasePrepared id statement).snd e)
  | table id schema name =>
    exact hquiet (fun _ _ => rfl) rfl ((quiets_table id schema name).snd e)
  | append id schema name columns =>
    exact hquiet (fun _ _ => rfl) rfl ((quiets_append id schema name columns).snd e)
  | fixColumn id =>
    rcases fixColumn_cases e id with ⟨error, e', hfail, h⟩ | ⟨held, e', -, h, hok⟩
    · refine hquiet (fun key fixes => ?_) rfl ?_
      · rw [counted, show e.given (StorageEngine.fixColumn id) _ = _ from given_of_error hfail _]
        exact ite_self fixes
      · rw [show e.step (.fixColumn id) = e' from after_eq hfail]
        exact h
    · rw [show e.step (.fixColumn id) = _ from after_eq hok]
      refine .fixed id h fun fixes => ?_
      rw [counted, if_pos rfl, show e.given (StorageEngine.fixColumn id) _ = _ from given_of_ok hok _]
      rfl
  | unfixColumn id => exact .unfixed id

end MemoryEngine

end ColumnBridge
