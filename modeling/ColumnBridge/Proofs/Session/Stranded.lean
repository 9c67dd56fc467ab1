import ColumnBridge.Proofs.Session.Program

/-!
Databases that were stopped, and the engine that runs again.

Whether a database runs is a question to the engine, which all databases share. So a database that was
stopped stays so only until the next one is started; then it works as that one does, and stopping it ends
sessions of connections that it does not keep.

* `Program.not_running_run`: an engine that does not run goes on so until a database is started;
* `Program.Live`, `Program.Strands`: every open connection has its session, and the one action that leaves
  a connection open without it, by `Program.live_step_iff`;
* `Program.stopped_untilNextStart`: how long a stopped database fails, and when all open connections
  have their sessions;
* `Program.stopped_worksAgain`: a run in which a stopped database does not fail.
-/

namespace ColumnBridge.Program

/-! ### From one start to the next -/

/-- No database is ever forgotten. -/
lemma length_databases_le_step (s : Program) (action : Action) :
    s.databases.length ≤ (s.step action).databases.length := by
  cases action with
  | failStartup => exact le_rfl
  | start settings =>
    rw [step]
    split
    · exact (List.length_append.symm ▸ Nat.le_add_right ..)
    · exact le_rfl
  | connect n =>
    rw [step]
    split
    · exact le_rfl
    · split <;> exact le_rfl
  | stop n | copy n | close n =>
    rw [step]
    split <;> exact le_rfl

/-- An engine that does not run goes on so, or a database is started. -/
lemma not_running_step {s : Program} (h : s.world.engine.initialized = false) (action : Action)
    (hsame : (s.step action).databases.length = s.databases.length) :
    (s.step action).world.engine.initialized = false := by
  cases action with
  | failStartup => exact h
  | start settings =>
    rcases Database.start_cases settings s.world with ⟨hrun, -⟩ | ⟨-, message, hw⟩ | ⟨-, hw⟩
    · cases h.symm.trans hrun
    · rw [step, hw]
      exact h
    · -- a database was started
      rw [step, hw, List.length_append] at hsame
      exact absurd hsame (Nat.succ_ne_self _)
  | connect n =>
    cases hn : s.databases[n]? with
    | none =>
      rw [step, hn]
      exact h
    | some db =>
      rw [world_step_connect hn, db.connect_of_not_running h]
      exact h
  | stop n =>
    rw [step]
    split
    · exact h
    · next db _ => rwa [db.stop_of_not_running h]
  | copy n =>
    rw [step]
    split <;> exact h
  | close n =>
    rw [step]
    split
    · exact h
    · next c _ => rwa [Embedding.initialized_close]

lemma length_databases_le_run (s : Program) (actions : List Action) :
    s.databases.length ≤ (s.run actions).databases.length := by
  induction actions generalizing s with
  | nil => exact le_rfl
  | cons action actions ih => exact (s.length_databases_le_step action).trans (ih (s.step action))

/-- An engine that does not run goes on so until a database is started. -/
lemma not_running_run {s : Program} (h : s.world.engine.initialized = false) {actions : List Action}
    (hsame : (s.run actions).databases.length = s.databases.length) :
    (s.run actions).world.engine.initialized = false := by
  induction actions generalizing s with
  | nil => exact h
  | cons action actions ih =>
    have hstep := s.length_databases_le_step action
    have hrest := (s.step action).length_databases_le_run actions
    change ((s.step action).run actions).databases.length = s.databases.length at hsame
    have hsame_step : (s.step action).databases.length = s.databases.length := by omega
    exact ih (not_running_step h action hsame_step) (by rw [hsame, hsame_step])

/-! ### Open connections and their sessions -/

/-- Every open connection has its session. -/
def Live (s : Program) : Prop :=
  ∀ c ∈ s.connections, c.isClosed s.world = false → c.IsLive s.world

/-- An action stops the running engine through a database that does not keep all open connections. -/
def Strands (s : Program) : Action → Prop
  | .stop database =>
    s.world.engine.initialized = true ∧ ∃ db ∈ s.databases[database]?,
      ∃ c ∈ s.connections, c.isClosed s.world = false ∧ c.link ∉ s.world.keptBy db.id
  | _ => False

instance (s : Program) : (action : Action) → Decidable (Strands s action)
  | .stop database => inferInstanceAs (Decidable (_ ∧ ∃ db ∈ s.databases[database]?,
      ∃ c ∈ s.connections, c.isClosed s.world = false ∧ c.link ∉ s.world.keptBy db.id))
  | .failStartup _ | .start _ | .connect _ | .copy _ | .close _ => .isFalse id

variable {s : Program}

/-- All open links are those of connections. -/
lemma Tracked.live_iff (h : s.Tracked) : s.Live ↔ s.world.Live := by
  constructor
  · intro hlive link id hlink
    obtain ⟨c, hc, rfl⟩ := h.handedOut hlink
    obtain ⟨id', hid', hcontains⟩ := hlive c hc (c.isClosed_eq_false_iff.mpr ⟨id, hlink⟩)
    cases hlink.symm.trans hid'
    exact Ledger.contains_iff_mem.mp hcontains
  · intro hlive c _ hopen
    obtain ⟨id, hid⟩ := c.isClosed_eq_false_iff.mp hopen
    exact ⟨id, hid, Ledger.contains_iff_mem.mpr (hlive c.link id hid)⟩

/-- A stop that strands no connection closes all open ones. -/
lemma Tracked.live_stop_iff (h : s.Tracked) (hlive : s.Live) (n : ℕ) :
    (s.step (.stop n)).Live ↔ ¬ s.Strands (.stop n) := by
  rw [(h.step (.stop n)).live_iff, Program.step, Strands]
  cases hn : s.databases[n]? with
  | none =>
    refine iff_of_true (h.live_iff.mp hlive) ?_
    rintro ⟨-, db, hdb, -⟩
    cases hdb
  | some db =>
    cases hrun : s.world.engine.initialized with
    | false =>
      refine iff_of_true ?_ fun hstrands => absurd hstrands.1 Bool.false_ne_true
      change (db.stop s.world).2.Live
      rw [db.stop_of_not_running hrun]
      exact h.live_iff.mp hlive
    | true =>
      refine (Embedding.live_stop_iff db hrun).trans ?_
      constructor
      · rintro hkept ⟨-, db', hdb, c, -, hopen, hc⟩
        cases hdb
        obtain ⟨id, hid⟩ := c.isClosed_eq_false_iff.mp hopen
        exact hc (hkept c.link id hid)
      · intro hnone link id hlink
        obtain ⟨c, hc, rfl⟩ := h.handedOut hlink
        by_contra hkept
        exact hnone ⟨rfl, db, rfl, c, hc, c.isClosed_eq_false_iff.mpr ⟨id, hlink⟩, hkept⟩

/-- **One action.**  Every open connection keeps its session, unless the action strands one. -/
lemma Tracked.live_step_iff (h : s.Tracked) (hlive : s.Live) (action : Action) :
    (s.step action).Live ↔ ¬ s.Strands action := by
  have hworld := h.live_iff.mp hlive
  cases action with
  | stop n => exact h.live_stop_iff hlive n
  | failStartup message => exact iff_of_true ((h.step _).live_iff.mpr hworld) id
  | start settings =>
    refine iff_of_true ((h.step _).live_iff.mpr ?_) id
    rw [world_step_start]
    exact hworld.start settings
  | connect n =>
    refine iff_of_true ((h.step _).live_iff.mpr ?_) id
    cases hn : s.databases[n]? with
    | none =>
      rw [Program.step, hn]
      exact hworld
    | some db =>
      rw [world_step_connect hn]
      exact hworld.connect db h.sound
  | copy n =>
    refine iff_of_true ((h.step _).live_iff.mpr ?_) id
    rw [Program.step]
    split <;> exact hworld
  | close n =>
    refine iff_of_true ((h.step _).live_iff.mpr ?_) id
    rw [Program.step]
    split
    · exact hworld
    · next c _ => exact hworld.close h.sound c

/-- **A run.**  While no action strands a connection, every open one has its session. -/
lemma Reached.live {allowed : Program → Action → Prop} (h : Reached allowed s)
    (hallowed : ∀ t action, allowed t action → ¬ Strands t action) : s.Live := by
  induction h with
  | fresh => exact nofun
  | step h haction ih => exact (h.tracked.live_step_iff ih _).mpr (hallowed _ _ haction)

/-- What a stranding stop leaves: it succeeds, and the connection is open on an engine without sessions. -/
lemma exists_stranded {n : ℕ} {db : Database} (hn : s.databases[n]? = some db)
    (h : s.Strands (.stop n)) :
    ∃ u, db.stop s.world = (.ok (), u) ∧ u.engine.initialized = false
      ∧ ∃ c ∈ s.connections, c.isClosed u = false ∧ ¬ c.IsLive u := by
  obtain ⟨hrun, db', hdb', c, hc, hopen, hkept⟩ := h
  cases hn.symm.trans hdb'
  refine ⟨_, db.stop_of_running hrun, rfl, c, hc, ?_, ?_⟩
  · obtain ⟨id, hid⟩ := c.isClosed_eq_false_iff.mp hopen
    refine c.isClosed_eq_false_iff.mpr ⟨id, (s.world.session_closeKept db.id c.link).trans ?_⟩
    rw [if_neg hkept, hid]
  · rintro ⟨id, -, hid⟩
    cases hid

/-- A database that was stopped, or never ran, leaves an engine that does not run. -/
lemma not_running_stop {n : ℕ} {db : Database} (hn : s.databases[n]? = some db) :
    (s.step (.stop n)).world.engine.initialized = false := by
  rw [step]
  simp only [hn]
  cases hrun : s.world.engine.initialized with
  | false => rwa [db.stop_of_not_running hrun]
  | true => rw [db.stop_of_running hrun]

lemma databases_step_stop (s : Program) (n : ℕ) : (s.step (.stop n)).databases = s.databases := by
  rw [step]
  split <;> rfl

/-- **How long a stopped database fails.**  After a database was stopped, it can be neither stopped nor
used to connect until the next database is started, and trying changes nothing.  While the engine runs,
both succeed with every database, also with one that was stopped before.  So an action leaves an open
connection without its session exactly if it stops the running engine through a database that does not
keep all open connections; and along a run without such an action every open connection has its session. -/
theorem stopped_untilNextStart {allowed : Program → Action → Prop} (h : Reached allowed s) :
    (∀ n db, s.databases[n]? = some db → ∀ actions,
        let t := (s.step (.stop n)).run actions
        t.databases.length = s.databases.length →
          db.stop t.world = (.error .notRunning, t.world)
            ∧ db.connect t.world = (.error .notRunning, t.world))
      ∧ (∀ db ∈ s.databases, s.world.engine.initialized = true →
          (∃ u, db.stop s.world = (.ok (), u) ∧ u.engine.initialized = false)
            ∧ ∃ c u, db.connect s.world = (.ok c, u) ∧ c.IsLive u)
      ∧ (s.Live → ∀ action, (s.step action).Live ↔ ¬ s.Strands action)
      ∧ ((∀ t action, allowed t action → ¬ Strands t action) → s.Live) := by
  refine ⟨?_, ?_, fun hlive => h.tracked.live_step_iff hlive, h.live⟩
  · intro n db hn actions t hsame
    have hstopped : t.world.engine.initialized = false :=
      not_running_run (not_running_stop hn) (hsame.trans (by rw [databases_step_stop]))
    exact ⟨db.stop_of_not_running hstopped, db.connect_of_not_running hstopped⟩
  · intro db _ hrun
    refine ⟨⟨_, db.stop_of_running hrun, rfl⟩, ⟨s.world.links.size, db.settings.marshal⟩,
      (db.connect s.world).2, ?_, s.world.engine.lastHandle + 1, ?_, ?_⟩
    · rw [db.connect_of_running hrun]
    · exact (Embedding.Sound.session_connect db hrun _).trans (if_pos rfl)
    · rw [Ledger.contains_iff_mem]
      change _ ∈ (db.connect s.world).2.sessionIds
      rw [h.tracked.sound.sessionIds_connect db hrun]
      exact List.mem_append_right _ (List.mem_singleton_self _)

/-- While the second of two databases runs, the first one works as well. Of two connections and a copy,
those of the first database are closed with it; the one of the second is stranded if the first is stopped
again. -/
theorem stopped_untilNextStart_twoDatabases :
    let settings : Settings := ⟨none, true, false, 100, {}, "info", false⟩
    let fresh : Program := { world := { engine := {} } }
    let s := fresh.run [.start settings, .connect 0, .copy 0, .stop 0, .start settings, .connect 1]
    Reached (fun t action => ¬ t.Strands action) s ∧ s.Live ∧ ¬ (s.step (.stop 0)).Live
      ∧ ∃ db, s.databases[0]? = some db
        ∧ (∃ u, db.stop s.world = (.ok (), u) ∧ u.engine.initialized = false)
        ∧ let t := (s.step (.stop 0)).run [.connect 1, .close 2]
          t.databases.length = s.databases.length
            ∧ db.stop t.world = (.error .notRunning, t.world)
            ∧ db.connect t.world = (.error .notRunning, t.world) := by
  intro settings fresh s
  have hreached : Reached (fun t action => ¬ t.Strands action) s :=
    (Reached.fresh rfl rfl).run (by decide +kernel)
  obtain ⟨hfail, hwork, hexact, hrun⟩ := stopped_untilNextStart hreached
  have hlive : s.Live := hrun fun _ _ => id
  obtain ⟨db, hdb⟩ : ∃ db, s.databases[0]? = some db :=
    Option.isSome_iff_exists.mp (by decide +kernel)
  have hlength : ((s.step (.stop 0)).run [.connect 1, .close 2]).databases.length
      = s.databases.length := by decide +kernel
  have hmem : db ∈ s.databases := List.mem_of_getElem? hdb
  refine ⟨hreached, hlive, fun hstill => (hexact hlive _).mp hstill (by decide +kernel), db, hdb,
    (hwork db hmem (by decide +kernel)).1, hlength, ?_⟩
  exact hfail 0 db hdb _ hlength

/-- **A stopped database works again.**  A database is stopped, and the next one is started and used to
connect. Then the first one can be stopped once more: the engine is shut down, and the connection of the
other database is left open without its session. -/
theorem stopped_worksAgain :
    let settings : Settings := ⟨none, true, false, 100, {}, "info", false⟩
    let fresh : Program := { world := { engine := {} } }
    let s := fresh.run [.start settings, .stop 0, .start settings, .connect 1]
    ∃ db, s.databases[0]? = some db
      ∧ (∃ u, db.stop (fresh.run [.start settings]).world = (.ok (), u))
      ∧ ∃ u, db.stop s.world = (.ok (), u) ∧ u.engine.initialized = false
        ∧ ∃ c ∈ s.connections, c.isClosed u = false ∧ ¬ c.IsLive u := by
  intro settings fresh s
  obtain ⟨db, hdb⟩ : ∃ db, s.databases[0]? = some db :=
    Option.isSome_iff_exists.mp (by decide +kernel)
  exact ⟨db, hdb, ⟨_, db.stop_of_running (by decide +kernel)⟩, exists_stranded hdb (by decide +kernel)⟩

end ColumnBridge.Program
