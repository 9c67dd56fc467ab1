import ColumnBridge.Proofs.Session.Ages
import ColumnBridge.Proofs.Session.Bookkeeping
import ColumnBridge.Proofs.Session.Client

/-!
Connections that are closed.

* `SessionM.Refused`, `Connection.Inert`, `Table.Inert`: what a closed connection and its tables do, on any
  engine, which follows from the link alone (`Connection.inert_of_closed`, `Table.inert_of_closed`);
* `Client.Started`, `Client.Opened`, `Client.Closes`: a run in which a database was started and opened a
  connection, and the two ways to close it;
* `Client.Registered`: what holds of the connection from then on, along every run;
* `ResultSet.Usable`: result sets that can be read and freed, which all those are that are alive, and
  `Client.alive_subset_run`: they stay until they are released;
* `Client.closed_inert`: over whole runs.
-/

namespace ColumnBridge

open SessionM

/-! ### Closed links -/

section Engine

variable {σ α β : Type} {w : Embedding σ}

/-- A step is refused because the connection is closed, and changes nothing at all. -/
def SessionM.Refused (step : SessionM σ α) (w : Embedding σ) : Prop :=
  step w = (.error (.interface "Connection already closed?"), w)

/-- What begins with a refused step is refused. -/
lemma SessionM.Refused.bind {step : SessionM σ α} (h : Refused step w) (next : α → SessionM σ β) :
    Refused (step >>= next) w := bind_apply_of_error h

/-- Every call on the session of a closed connection is refused. -/
lemma Connection.refused_withSession {c : Connection} (h : w.session c.link = none)
    (call : SessionId → EngineM σ α) : Refused (c.withSession call) w := by
  rw [Refused, withSession, get_bind_apply]
  simp only [h]
  rfl

variable [StorageEngine σ]

/-- A connection is closed and stays so, and every command on it is refused. -/
structure Connection.Inert (c : Connection) (w : Embedding σ) : Prop where
  isClosed : c.isClosed w = true
  close : c.close w = (.ok (), w)
  autocommit : Refused c.autocommit w
  setAutocommit : ∀ enabled, Refused (c.setAutocommit enabled) w
  setReplySize : ∀ size, Refused (c.setReplySize size) w
  releasePrepared : ∀ statement, Refused (c.releasePrepared statement) w
  closeResult : ∀ result, Refused (c.closeResult result) w
  query : ∀ sql, Refused (c.query sql) w
  update : ∀ sql, Refused (c.update sql) w
  prepare : ∀ sql, Refused (c.prepare sql) w
  executePrepared : ∀ sql, Refused (c.executePrepared sql) w
  executeAndIgnore : ∀ sql, Refused (c.executeAndIgnore sql) w
  table : ∀ schema name, Refused (c.table schema name) w

lemma Connection.inert_of_closed {c : Connection} (h : w.session c.link = none) : c.Inert w where
  isClosed := Option.isNone_iff_eq_none.mpr h
  close := c.close_of_closed h
  autocommit := refused_withSession h _
  setAutocommit _ := refused_withSession h _
  setReplySize _ := refused_withSession h _
  releasePrepared _ := refused_withSession h _
  closeResult _ := refused_withSession h _
  query _ := (refused_withSession h _).bind _
  update _ := (refused_withSession h _).bind _
  prepare _ := (refused_withSession h _).bind _
  executePrepared _ := (refused_withSession h _).bind _
  executeAndIgnore _ := (refused_withSession h _).bind _
  table _ _ := (refused_withSession h _).bind _

/-- Every question about a table is refused, and so is adding rows, whatever they are.  Only what is at
position 0, which is nothing, is told without asking. -/
structure Table.Inert (t : Table) (w : Embedding σ) : Prop where
  columns : Refused t.columns w
  described : ∀ {β : Type} (describe : List TableColumn → β),
    Refused (do return describe (← t.columns)) w
  logicalTypes : Refused t.logicalTypes w
  columnByName : ∀ name, Refused (t.columnByName name) w
  columnByIndex : ∀ position, Refused (t.columnByIndex (position + 1)) w
  columnByIndex_zero : t.columnByIndex 0 w = (.ok none, w)
  append : ∀ arrays, Refused (t.append arrays) w

lemma Table.inert_of_closed {t : Table} (h : w.session t.connection.link = none) : t.Inert w := by
  have hcolumns : Refused t.columns w := Connection.refused_withSession h _
  exact
    { columns := hcolumns
      described := fun _ => hcolumns.bind _
      logicalTypes := hcolumns.bind _
      columnByName := fun _ => hcolumns.bind _
      columnByIndex := fun _ => hcolumns.bind _
      columnByIndex_zero := rfl
      append := fun _ => hcolumns.bind _ }

end Engine

/-! ### Result sets that outlive their connection -/

/-- The engine keeps every column of a result set as the result set has it, and freeing takes the output
and its columns out.  Reading needs the result set alone. -/
structure ResultSet.Usable (rs : ResultSet) (w : Embedding MemoryEngine) : Prop where
  column : ∀ index c, rs.columns[index]? = some c → rs.column index = .ok c.guard.column
    ∧ w.engine.columns.get c.guard.id = some { column := c.guard.column, fixes := 1 }
  free : ∃ u, rs.free w = (.ok (), u) ∧ u.engine.results.contains rs.id = false
    ∧ ∀ c ∈ rs.columns, u.engine.columns.contains c.guard.id = false

namespace MemoryEngine

variable {e e' : MemoryEngine} {a b : List HeldOutput} {o : HeldOutput} {m n : ℕ}

/-- An output that an engine no longer accounts for is not there, and neither are its columns. -/
lemma Accounts.not_contains (h : e.Accounts (a ++ o :: b) m) (h' : e'.Accounts (a ++ b) n) :
    e'.results.contains o.id = false ∧ ∀ c ∈ o.columns, e'.columns.contains c.1 = false := by
  constructor
  · have hid : o.id ∉ (a ++ b).map HeldOutput.id := by
      have hmiddle : (a ++ o :: b).Perm (o :: (a ++ b)) := List.perm_middle
      exact (List.nodup_cons.mp ((hmiddle.map HeldOutput.id).nodup h.ids_nodup)).1
    rw [Bool.eq_false_iff, Ne, Ledger.contains_iff_mem, h'.results_eq, List.map_map]
    exact hid
  · intro c hc
    have hkeys : (o.columns.map Prod.fst ++ HeldOutput.columnIds (a ++ b)).Nodup := by
      refine List.Perm.nodup ?_ h.columns_nodup
      rw [HeldOutput.columnIds_middle, HeldOutput.columnIds_append]
      exact List.perm_append_comm_assoc ..
    rw [Bool.eq_false_iff, Ne, Ledger.contains_iff_mem, h'.columns_eq]
    exact fun hmem => (List.nodup_append.mp hkeys).2.2 _ (List.mem_map_of_mem hc) _ hmem rfl

end MemoryEngine

namespace Client

variable {s : Client}

/-- Every result set that is alive can be used. -/
lemma Balanced.usable (h : s.Balanced) {rs : ResultSet} (hrs : rs ∈ s.alive) : rs.Usable s.world := by
  obtain ⟨before, after, halive⟩ := List.append_of_mem hrs
  have hat := h
  rw [Balanced, halive, List.map_append, List.map_cons] at hat
  constructor
  · intro index c hc
    refine ⟨by rw [ResultSet.column, hc], ?_⟩
    obtain ⟨left, right, hcolumns⟩ := List.append_of_mem (List.mem_of_getElem? hc)
    rw [ResultSet.held, hcolumns, List.map_append, List.map_cons] at hat
    exact hat.get_column
  · have hends := rs.ends_free hat
    rcases hfree : rs.free s.world with ⟨error | u, t⟩
    · exact ((ends_iff_of_error hfree).mp hends).elim
    · obtain ⟨hresult, hcolumns⟩ := hat.not_contains ((ends_iff_of_ok hfree).mp hends)
      refine ⟨t, rfl, hresult, fun c hc => ?_⟩
      exact hcolumns (c.entry 1) (List.mem_map_of_mem hc)

/-! ### Runs -/

variable {α : Type}

section Ages

open ColumnBridge.Embedding

lemma ages_execute {c : Connection} {sql : String} {step : SessionM MemoryEngine α}
    {gives : α → List ResultSet} (h : Keeps SameLinks step) :
    Ages s.world (s.execute c sql step gives).world := .of_sameLinks (h.snd s.world)

lemma ages_finish {step : ResultSet → SessionM MemoryEngine Unit} (h : ∀ rs, Keeps SameLinks (step rs))
    (position : ℕ) : Ages s.world (s.finish position step).world := by
  rw [finish]
  split
  · exact .of_sameLinks ((h _).snd s.world)
  · exact refl_of Ages s.world

/-- Links age at every command. -/
lemma ages_step (s : Client) (command : Command) : Ages s.world (s.step command).world := by
  cases command with
  | script | createTable | failColumnLookup | failNextAppend => exact .of_sameLinks ⟨rfl, rfl⟩
  | start settings => exact (Database.ages_start settings).snd s.world
  | connect db => exact db.ages_connect.snd s.world
  | stop db => exact db.ages_stop.snd s.world
  | autocommit c => exact .of_sameLinks ((c.keeps_withSession _).snd s.world)
  | setAutocommit c enabled => exact .of_sameLinks ((c.keeps_withSession _).snd s.world)
  | setReplySize c size => exact .of_sameLinks ((c.keeps_withSession _).snd s.world)
  | releasePrepared c statement => exact .of_sameLinks ((c.keeps_withSession _).snd s.world)
  | closeResult c result => exact .of_sameLinks ((c.keeps_withSession _).snd s.world)
  | query c sql => exact ages_execute (c.keeps_query sql)
  | update c sql => exact ages_execute (c.keeps_update sql)
  | prepare c sql => exact ages_execute (c.keeps_prepare sql)
  | executePrepared c sql => exact ages_execute (c.keeps_executePrepared sql)
  | executeAndIgnore c sql => exact ages_execute (c.keeps_executeAndIgnore sql)
  | table c schema name => exact .of_sameLinks ((c.keeps_table schema name).snd s.world)
  | columns t => exact .of_sameLinks ((t.connection.keeps_withSession _).snd s.world)
  | append t arrays => exact .of_sameLinks ((t.keeps_append arrays).snd s.world)
  | close c => exact c.ages_close.snd s.world
  | free position => exact ages_finish ResultSet.keeps_free position
  | drop position => exact ages_finish ResultSet.keeps_drop position

lemma ages_run (s : Client) (commands : List Command) : Ages s.world (s.run commands).world := by
  induction commands generalizing s with
  | nil => exact refl_of Ages s.world
  | cons command commands ih => exact trans_of Ages (s.ages_step command) (ih _)

end Ages

/-! ### Result sets that stay -/

/-- A command frees or drops a result set. -/
def Releases : Command → Prop
  | .free _ | .drop _ => True
  | _ => False

lemma alive_subset_execute {c : Connection} {sql : String} {step : SessionM MemoryEngine α}
    {gives : α → List ResultSet} : s.alive ⊆ (s.execute c sql step gives).alive := by
  rw [execute]
  split
  · exact List.subset_append_left _ _
  · exact List.Subset.refl _

/-- Only such a command takes a result set away. -/
lemma alive_subset_step {command : Command} (h : ¬ Releases command) :
    s.alive ⊆ (s.step command).alive := by
  cases command with
  | query | update | prepare | executePrepared | executeAndIgnore => exact alive_subset_execute
  | free | drop => exact absurd trivial h
  | _ => exact List.Subset.refl _

lemma alive_subset_run {commands : List Command} (h : ∀ command ∈ commands, ¬ Releases command) :
    s.alive ⊆ (s.run commands).alive := by
  induction commands generalizing s with
  | nil => exact List.Subset.refl _
  | cons command commands ih =>
    obtain ⟨hfirst, hrest⟩ := List.forall_mem_cons.mp h
    exact List.Subset.trans (alive_subset_step hfirst) (ih hrest)

/-! ### Connections that a run opens and closes -/

/-- The states of a run from a new engine in which a database was started. -/
inductive Started (startupError : Option String) (db : Database) : Client → Prop
  | start (before : List Command) (settings : Settings)
      (h : (Database.start settings ((start startupError).run before).world).1 = .ok db) :
      Started startupError db (((start startupError).run before).step (.start settings))
  | step {s : Client} (h : Started startupError db s) (command : Command) :
      Started startupError db (s.step command)

/-- The states of such a run in which the database opened a connection. -/
inductive Opened (startupError : Option String) (db : Database) (c : Connection) : Client → Prop
  | connect {s : Client} (h : Started startupError db s) (hc : (db.connect s.world).1 = .ok c) :
      Opened startupError db c (s.step (.connect db))
  | step {s : Client} (h : Opened startupError db c s) (command : Command) :
      Opened startupError db c (s.step command)

/-- A command closes a connection: any copy of it is closed, or the database that opened it is stopped. -/
def Closes (s : Client) (db : Database) (c : Connection) : Command → Prop
  | .close d => d.link = c.link
  | .stop d => d.id = db.id ∧ (d.stop s.world).1 = .ok ()
  | _ => False

/-- The link of a connection exists, and while it is open, the database keeps it. -/
structure Registered (s : Client) (db : Database) (c : Connection) : Prop where
  link_lt : c.link < s.world.links.size
  kept : s.world.session c.link ≠ none → c.link ∈ s.world.keptBy db.id

variable {startupError : Option String} {db : Database} {c : Connection}

namespace Started

lemma balanced (h : Started startupError db s) : s.Balanced := by
  induction h with
  | start before settings => exact ((Balanced.start startupError).run before).step _
  | step _ command ih => exact ih.step command

/-- A database that was started keeps links from then on. -/
lemma id_lt (h : Started startupError db s) : db.id < s.world.kept.size := by
  induction h with
  | start before settings h =>
    generalize (Client.start startupError).run before = s at h ⊢
    have hstep : (s.step (.start settings)).world = (Database.start settings s.world).2 := rfl
    rcases Database.start_cases settings s.world with ⟨-, hw⟩ | ⟨-, message, hw⟩ | ⟨-, hw⟩
    · rw [hw] at h
      cases h
    · rw [hw] at h
      cases h
    · rw [hstep, hw]
      rw [hw] at h
      cases h
      exact (Array.size_push ..).symm ▸ Nat.lt_succ_self _
  | step _ command ih => exact ih.trans_le (ages_step _ command).kept_le

end Started

/-- A connection stays registered. -/
lemma Registered.step (h : s.Registered db c) (command : Command) :
    (s.step command).Registered db c := by
  have hages := s.ages_step command
  refine ⟨h.link_lt.trans_le hages.links_le, fun hopen => ?_⟩
  have hbefore : s.world.session c.link ≠ none := fun hnone => hopen (hages.closed _ h.link_lt hnone)
  exact hages.kept db.id c.link (h.kept hbefore) h.link_lt hopen

namespace Opened

lemma balanced (h : Opened startupError db c s) : s.Balanced := by
  induction h with
  | connect h => exact h.balanced.step _
  | step _ command ih => exact ih.step command

lemma registered (h : Opened startupError db c s) : s.Registered db c := by
  induction h with
  | @connect s h hc =>
    have hstep : (s.step (.connect db)).world = (db.connect s.world).2 := rfl
    cases hrun : s.world.engine.initialized with
    | false =>
      rw [db.connect_of_not_running hrun] at hc
      cases hc
    | true =>
      have hkept := Embedding.keptBy_connect db hrun h.id_lt
      rw [← hstep] at hkept
      rw [db.connect_of_running hrun] at hc hstep
      cases hc
      refine ⟨?_, fun _ => hkept ▸ List.mem_append_right _ (List.mem_singleton_self _)⟩
      rw [hstep]
      exact (Array.size_push ..).symm ▸ Nat.lt_succ_self _
  | step _ command ih => exact ih.step command

end Opened

/-- Closing closes the link, even if the engine fails at it. -/
lemma session_close (c : Connection) (w : Embedding MemoryEngine) :
    (c.close w).2.session c.link = none := by
  cases hlink : w.session c.link with
  | none => rw [c.close_of_closed hlink, hlink]
  | some id =>
    rw [c.snd_close_of_open hlink]
    exact (w.session_closeLink c.link c.link).trans (if_pos rfl)

/-- Both ways to close a connection close its link. -/
lemma Registered.session_of_closes (h : s.Registered db c) {closing : Command}
    (hclose : Closes s db c closing) : (s.step closing).world.session c.link = none := by
  cases closing with
  | close d =>
    rw [← show d.link = c.link from hclose]
    exact session_close d s.world
  | stop d =>
    obtain ⟨hid, hok⟩ := hclose
    have hstep : (s.step (.stop d)).world = (d.stop s.world).2 := rfl
    cases hrun : s.world.engine.initialized with
    | false =>
      rw [d.stop_of_not_running hrun] at hok
      cases hok
    | true =>
      rw [hstep, d.stop_of_running hrun]
      refine (s.world.session_closeKept d.id c.link).trans ?_
      split_ifs with hkept
      · rfl
      · by_contra hopen
        exact hkept (hid ▸ h.kept hopen)
  | _ => exact hclose.elim

/-- **Use after closing.**  From the command on that closes a connection, along every run, no copy of it is
open, and whatever is asked of one or of a table on one is refused and changes nothing; only that there
is no column 0 is told without asking.  The result sets that were there before stay until they are freed
or dropped, and all those that are there can be read and freed. -/
theorem closed_inert (h : Opened startupError db c s) {closing : Command}
    (hclose : Closes s db c closing) (later : List Command) :
    let u := (s.step closing).run later
    (∀ d : Connection, d.link = c.link → d.Inert u.world)
      ∧ (∀ t : Table, t.connection.link = c.link → t.Inert u.world)
      ∧ ((∀ command ∈ later, ¬ Releases command) → s.alive ⊆ u.alive)
      ∧ ∀ rs ∈ u.alive, rs.Usable u.world := by
  intro u
  have hlink := h.registered
  have hlt := hlink.link_lt.trans_le (s.ages_step closing).links_le
  have hclosed : u.world.session c.link = none :=
    ((s.step closing).ages_run later).closed c.link hlt (hlink.session_of_closes hclose)
  have hkept : s.alive ⊆ (s.step closing).alive := by
    cases closing with
    | close | stop => exact List.Subset.refl _
    | _ => exact hclose.elim
  have hbalanced : u.Balanced := (h.balanced.step closing).run later
  exact ⟨fun d hd => Connection.inert_of_closed (hd ▸ hclosed),
    fun t ht => Table.inert_of_closed (ht ▸ hclosed),
    fun hlater => List.Subset.trans hkept (alive_subset_run hlater), fun _ => hbalanced.usable⟩

/-- The database of a connection is stopped and another one is started, which opens a connection of its
own.  The old connection is closed, and its result set is there. -/
theorem closed_inert_otherDatabase :
    let settings : Settings := ⟨none, true, false, 100, {}, "info", false⟩
    let column : Column := ⟨.int, #[(7 : Int32)], ⟨false, true, true, true⟩, rfl⟩
    let result : ScriptedResult := { kind := .table, columns := [⟨"a", "int", 32, 0, column⟩] }
    let db : Database := ⟨0, settings⟩
    let c : Connection := ⟨0, {}⟩
    let opened :=
      (((start none).run [.script "q" result]).step (.start settings)).step (.connect db)
    let s := opened.step (.query c "q")
    let u := (s.step (.stop db)).run [.start settings, .connect ⟨1, settings⟩]
    Opened none db c s ∧ Closes s db c (.stop db) ∧ u.engine.sessionCount = 1
      ∧ c.isClosed u.world = true
      ∧ c.autocommit u.world = (.error (.interface "Connection already closed?"), u.world)
      ∧ Table.append ⟨c, "sys", "t"⟩ [] u.world
        = (.error (.interface "Connection already closed?"), u.world)
      ∧ ∃ rs ∈ u.alive, rs.Usable u.world := by
  intro settings column result db c opened s u
  have hopened : Opened none db c s :=
    .step (.connect (.start [.script "q" result] settings (by rfl)) (by rfl)) (.query c "q")
  have hrun : s.world.engine.initialized = true := by decide +kernel
  have hcloses : Closes s db c (.stop db) := ⟨rfl, congrArg Prod.fst (db.stop_of_running hrun)⟩
  obtain ⟨hinert, htables, hkept, hsets⟩ :=
    closed_inert hopened hcloses [.start settings, .connect ⟨1, settings⟩]
  have hclosed := hinert c rfl
  obtain ⟨rs, hrs⟩ : ∃ rs, rs ∈ s.alive := List.exists_mem_of_length_pos (by decide +kernel)
  have halive : rs ∈ u.alive := hkept (by simp [Releases]) hrs
  exact ⟨hopened, hcloses, by decide +kernel, hclosed.isClosed, hclosed.autocommit,
    (htables ⟨c, "sys", "t"⟩ rfl).append [], rs, halive, hsets rs halive⟩

/-- Of a table on a closed connection, the column at position 1 is refused, and the one at position 0 is
told. -/
theorem columnByIndex_zero_of_closed :
    let settings : Settings := ⟨none, true, false, 100, {}, "info", false⟩
    let c : Connection := ⟨0, {}⟩
    let t : Table := ⟨c, "sys", "t"⟩
    let s := (start none).run
      [.createTable "sys" "t" [{ name := "n", sqlType := "int" }], .start settings,
        .connect ⟨0, settings⟩]
    let u := s.step (.close c)
    (c.table "sys" "t" s.world).1 = .ok t ∧ c.isClosed s.world = false ∧ c.isClosed u.world = true
      ∧ (t.columnByIndex 1 u.world).1 = .error (.interface "Connection already closed?")
      ∧ (t.columnByIndex 0 u.world).1 = .ok none :=
  ⟨rfl, rfl, rfl, rfl, rfl⟩

end Client

end ColumnBridge
