import ColumnBridge.Proofs.Session.Statements

/-!
Programs that use one engine in memory, from its creation on.

* `Client`: the engine, the result sets that the program holds, and how many outputs the engine has
  produced;
* `Command`, `Client.step`: the setting up of the engine, and the operations on databases, connections,
  tables and result sets, on any of them in any order;
* `Client.Balanced`: the invariant, and `Client.Balanced.step`, which keeps it at every command;
* `Client.run_balanced`: in every reached state the engine keeps exactly the outputs and the columns of
  the result sets that are alive, and all other outputs were cleaned up once.
-/

namespace ColumnBridge

open MemoryEngine

/-- A program that uses one engine. -/
structure Client where
  world : Embedding MemoryEngine
  /-- The result sets that are neither freed nor dropped, also those inside of prepared statements and
  outcomes. -/
  alive : List ResultSet := []
  /-- How many outputs the engine has produced. -/
  produced : ℕ := 0

/-- What a program can do. -/
inductive Command
  | script (sql : String) (result : ScriptedResult)
  | createTable (schema name : String) (columns : List TableColumn)
  | failColumnLookup (successes : ℕ)
  | failNextAppend (message : String)
  | start (settings : Settings)
  | connect (db : Database)
  | stop (db : Database)
  | autocommit (c : Connection)
  | setAutocommit (c : Connection) (enabled : Bool)
  | setReplySize (c : Connection) (size : ℕ)
  | releasePrepared (c : Connection) (statement : Int64)
  | closeResult (c : Connection) (result : Int64)
  | query (c : Connection) (sql : String)
  | update (c : Connection) (sql : String)
  | prepare (c : Connection) (sql : String)
  | executePrepared (c : Connection) (sql : String)
  | executeAndIgnore (c : Connection) (sql : String)
  | table (c : Connection) (schema name : String)
  | columns (t : Table)
  | append (t : Table) (arrays : List AppendArray)
  | close (c : Connection)
  /-- Free the result set at a position among those that are alive. -/
  | free (position : ℕ)
  /-- Drop the result set at a position among those that are alive. -/
  | drop (position : ℕ)

namespace Client

variable {α : Type}

/-- A program with a new engine, whose first start may be made to fail. -/
def start (startupError : Option String) : Client := { world := { engine := { startupError } } }

/-- The engine. -/
def engine (s : Client) : MemoryEngine := s.world.engine

/-- Set the engine up. -/
def setUp (s : Client) (f : MemoryEngine → MemoryEngine) : Client :=
  { s with world := { s.world with engine := f s.world.engine } }

/-- A step that is no statement; its result is of no concern. -/
def act (s : Client) (step : SessionM MemoryEngine α) : Client :=
  { s with world := (step s.world).2 }

/-- A step that runs one statement, with the result sets that it gives. -/
def execute (s : Client) (c : Connection) (sql : String) (step : SessionM MemoryEngine α)
    (gives : α → List ResultSet) : Client where
  world := (step s.world).2
  alive :=
    match (step s.world).1 with
    | .ok a => s.alive ++ gives a
    | .error _ => s.alive
  produced := s.produced + c.produces sql s.world

/-- A step that uses a result set up. Nothing happens where there is none. -/
def finish (s : Client) (position : ℕ) (step : ResultSet → SessionM MemoryEngine Unit) : Client :=
  match s.alive[position]? with
  | some rs => { s with world := (step rs s.world).2, alive := s.alive.eraseIdx position }
  | none => s

/-- A program after one command. -/
def step (s : Client) : Command → Client
  | .script sql result => s.setUp (.script sql result)
  | .createTable schema name columns => s.setUp (.createTable schema name columns)
  | .failColumnLookup successes => s.setUp (.failColumnLookup successes)
  | .failNextAppend message => s.setUp (.failNextAppend message)
  | .start settings => s.act (Database.start settings)
  | .connect db => s.act db.connect
  | .stop db => s.act db.stop
  | .autocommit c => s.act c.autocommit
  | .setAutocommit c enabled => s.act (c.setAutocommit enabled)
  | .setReplySize c size => s.act (c.setReplySize size)
  | .releasePrepared c statement => s.act (c.releasePrepared statement)
  | .closeResult c result => s.act (c.closeResult result)
  | .query c sql => s.execute c sql (c.query sql) fun rs => [rs]
  | .update c sql => s.execute c sql (c.update sql) fun _ => []
  | .prepare c sql => s.execute c sql (c.prepare sql) fun p => [p.parameters]
  | .executePrepared c sql => s.execute c sql (c.executePrepared sql) Connection.givenByOutcome
  | .executeAndIgnore c sql => s.execute c sql (c.executeAndIgnore sql) fun _ => []
  | .table c schema name => s.act (c.table schema name)
  | .columns t => s.act t.columns
  | .append t arrays => s.act (t.append arrays)
  | .close c => s.act c.close
  | .free position => s.finish position ResultSet.free
  | .drop position => s.finish position ResultSet.drop

/-- A program after some commands. -/
def run (s : Client) (commands : List Command) : Client := commands.foldl step s

/-! ### The invariant -/

/-- The engine keeps the outputs behind the result sets that are alive, in order, and nothing else. -/
def Balanced (s : Client) : Prop := s.engine.Accounts (s.alive.map ResultSet.held) s.produced

namespace Balanced

variable {s : Client}

lemma start (startupError : Option String) : (Client.start startupError).Balanced :=
  Accounts.fresh startupError

lemma setUp (h : s.Balanced) {f : MemoryEngine → MemoryEngine}
    (hf : ∀ e, Undisturbed e (f e)) : (s.setUp f).Balanced :=
  h.of_undisturbed (hf s.engine)

lemma act (h : s.Balanced) {step : SessionM MemoryEngine α} (hstep : SessionM.Spares step) :
    (s.act step).Balanced := by
  have hends := hstep s.world
  rcases hresult : step s.world with ⟨r | r, t⟩
  · rw [ends_iff_of_error hresult] at hends
    rw [Balanced, Client.act, hresult]
    exact h.of_undisturbed hends
  · rw [ends_iff_of_ok hresult] at hends
    rw [Balanced, Client.act, hresult]
    exact h.of_undisturbed hends

lemma execute (h : s.Balanced) {c : Connection} {sql : String} {step : SessionM MemoryEngine α}
    {gives : α → List ResultSet} (hstep : c.Gives sql step gives) :
    (s.execute c sql step gives).Balanced := by
  have hends := hstep h
  rw [Balanced, Client.execute]
  rcases hresult : step s.world with ⟨r | r, t⟩
  · rw [ends_iff_of_error hresult] at hends
    exact hends
  · rw [ends_iff_of_ok hresult, ← List.map_append] at hends
    exact hends

lemma finish (h : s.Balanced) {step : ResultSet → SessionM MemoryEngine Unit}
    (hstep : ∀ {w : Embedding MemoryEngine} {a b : List HeldOutput} {n : ℕ} (rs : ResultSet),
      w.engine.Accounts (a ++ rs.held :: b) n →
      Ends (step rs) w (fun _ t => t.engine.Accounts (a ++ b) n) fun _ => False)
    (position : ℕ) : (s.finish position step).Balanced := by
  rw [Client.finish]
  split
  · next rs hrs =>
    obtain ⟨hlt, rfl⟩ := List.getElem?_eq_some_iff.mp hrs
    -- the result set stands between those before and those after it
    have hsplit : s.alive = s.alive.take position
        ++ s.alive[position] :: s.alive.drop (position + 1) := by
      rw [List.getElem_cons_drop, List.take_append_drop]
    have hrest : s.alive.eraseIdx position
        = s.alive.take position ++ s.alive.drop (position + 1) := List.eraseIdx_eq_take_drop_succ ..
    have hbefore := h
    rw [Balanced] at hbefore ⊢
    rw [hsplit, List.map_append, List.map_cons] at hbefore
    have hends := hstep _ hbefore
    rw [hrest, List.map_append]
    rcases hresult : step s.alive[position] s.world with ⟨r | r, t⟩
    · rw [ends_iff_of_error hresult] at hends
      exact hends.elim
    · rw [ends_iff_of_ok hresult] at hends
      exact hends
  · exact h

/-- **One command.**  Every command keeps the balance. -/
theorem step (h : s.Balanced) (command : Command) : (s.step command).Balanced := by
  cases command with
  | script | createTable | failColumnLookup | failNextAppend =>
    exact h.setUp fun _ => ⟨rfl, rfl, rfl, le_rfl⟩
  | start settings => exact h.act (Database.spares_start settings)
  | connect db => exact h.act db.spares_connect
  | stop db => exact h.act db.spares_stop
  | autocommit c => exact h.act c.spares_autocommit
  | setAutocommit c enabled => exact h.act (c.spares_setAutocommit enabled)
  | setReplySize c size => exact h.act (c.spares_setReplySize size)
  | releasePrepared c statement => exact h.act (c.spares_releasePrepared statement)
  | closeResult c result => exact h.act (c.spares_closeResult result)
  | query c sql => exact h.execute (c.gives_query sql)
  | update c sql => exact h.execute (c.gives_update sql)
  | prepare c sql => exact h.execute (c.gives_prepare sql)
  | executePrepared c sql => exact h.execute (c.gives_executePrepared sql)
  | executeAndIgnore c sql => exact h.execute (c.gives_executeAndIgnore sql)
  | table c schema name => exact h.act (c.spares_table schema name)
  | columns t => exact h.act t.spares_columns
  | append t arrays => exact h.act (t.spares_append arrays)
  | close c => exact h.act c.spares_close
  | free position => exact h.finish ResultSet.ends_free position
  | drop position => exact h.finish ResultSet.ends_drop position

/-- **A run.**  So does every run. -/
theorem run (h : s.Balanced) (commands : List Command) : (s.run commands).Balanced := by
  induction commands generalizing s with
  | nil => exact h
  | cons command commands ih => exact ih (h.step command)

/-! ### What the balance says -/

/-- The result sets that are alive have different outputs, and those are the outputs of the engine. -/
lemma contains_result_iff (h : s.Balanced) (id : ResultId) :
    s.engine.results.contains id = true ↔ ∃ rs ∈ s.alive, rs.id = id := by
  rw [Ledger.contains_iff_mem, h.results_eq]
  simp [HeldOutput.entry, ResultSet.held]

lemma nodup_ids (h : s.Balanced) : (s.alive.map ResultSet.id).Nodup := by
  have hids := h.ids_nodup
  rwa [List.map_map] at hids

lemma liveResults_eq (h : s.Balanced) : s.engine.liveResults = s.alive.length := by
  rw [liveResults, Ledger.size, h.results_eq, List.length_map, List.length_map]

/-- The columns of the engine are those of the result sets that are alive. -/
lemma contains_column_iff (h : s.Balanced) (id : ColumnId) :
    s.engine.columns.contains id = true ↔ ∃ rs ∈ s.alive, ∃ c ∈ rs.columns, c.guard.id = id := by
  rw [Ledger.contains_iff_mem, h.columns_eq]
  simp [HeldOutput.allColumns, ResultSet.held, BoundColumn.entry]

/-- Each of them is fixed once. -/
lemma fixCount_eq_one (h : s.Balanced) {rs : ResultSet} (hrs : rs ∈ s.alive) {c : BoundColumn}
    (hc : c ∈ rs.columns) : s.engine.fixCount c.guard.id = 1 := by
  obtain ⟨before, after, halive⟩ := List.append_of_mem hrs
  obtain ⟨left, right, hcolumns⟩ := List.append_of_mem hc
  have hat := h
  rw [Balanced] at hat
  rw [halive, List.map_append, List.map_cons, ResultSet.held, hcolumns, List.map_append,
    List.map_cons] at hat
  rw [fixCount, hat.get_column]
  rfl

end Balanced

/-- **No leak and no double release.**  In every state that a run reaches from a new engine, the outputs
of the engine are those of the result sets that are alive; the columns of those, and no others, are kept,
each fixed exactly once; and of the outputs that the engine ever produced all others are cleaned up,
each once. -/
theorem run_balanced (startupError : Option String) (commands : List Command) :
    let s := (start startupError).run commands
    ((∀ id, s.engine.results.contains id = true ↔ ∃ rs ∈ s.alive, rs.id = id)
        ∧ (s.alive.map ResultSet.id).Nodup
        ∧ s.engine.liveResults = s.alive.length)
      ∧ ((∀ rs ∈ s.alive, ∀ c ∈ rs.columns, s.engine.fixCount c.guard.id = 1)
        ∧ ∀ id, s.engine.columns.contains id = true
            ↔ ∃ rs ∈ s.alive, ∃ c ∈ rs.columns, c.guard.id = id)
      ∧ s.engine.cleanups + s.engine.liveResults = s.produced := by
  intro s
  have h : s.Balanced := (Balanced.start startupError).run commands
  refine ⟨⟨h.contains_result_iff, h.nodup_ids, h.liveResults_eq⟩,
    ⟨fun rs hrs c hc => h.fixCount_eq_one hrs hc, h.contains_column_iff⟩, ?_⟩
  have hcount := h.count_eq
  rwa [List.length_map, ← h.liveResults_eq] at hcount

end Client

end ColumnBridge
