import ColumnBridge.Proofs.Session.Bookkeeping

/-!
Programs that start and stop databases and open and close connections on one engine in memory.

* `Program`: the engine with its links, and the databases and connections that were handed out;
* `Action`, `Program.step`: what a program does with any of them, and `Program.Reached`: the states that a
  run reaches, with a condition on what it does in which state;
* `Program.Tracked`: what holds along every run, and `Program.Reached.tracked`;
* `Program.bookkeeping_agrees`: along the runs that use the database started last alone, the connections,
  that database and the engine agree about what is open.
-/

namespace ColumnBridge

/-- A program that uses one engine. -/
structure Program where
  world : Embedding MemoryEngine
  /-- The databases that were started, in order. -/
  databases : List Database := []
  /-- The connections that were handed out and all copies of them, in order. -/
  connections : List Connection := []

/-- What a program does. Databases and connections go by their position among those handed out. -/
inductive Action
  /-- Make the next start fail. -/
  | failStartup (message : String)
  | start (settings : Settings)
  | connect (database : ℕ)
  | stop (database : ℕ)
  | copy (connection : ℕ)
  | close (connection : ℕ)

namespace Program

/-- A program after an action. Nothing happens where nothing was handed out. -/
def step (s : Program) : Action → Program
  | .failStartup message =>
    { s with world.engine.startupError := some message }
  | .start settings =>
    match Database.start settings s.world with
    | (.ok db, w) => { s with world := w, databases := s.databases ++ [db] }
    | (.error _, w) => { s with world := w }
  | .connect database =>
    match s.databases[database]? with
    | none => s
    | some db =>
      match db.connect s.world with
      | (.ok c, w) => { s with world := w, connections := s.connections ++ [c] }
      | (.error _, w) => { s with world := w }
  | .stop database =>
    match s.databases[database]? with
    | none => s
    | some db => { s with world := (db.stop s.world).2 }
  | .copy connection =>
    match s.connections[connection]? with
    | none => s
    | some c => { s with connections := s.connections ++ [c] }
  | .close connection =>
    match s.connections[connection]? with
    | none => s
    | some c => { s with world := (c.close s.world).2 }

lemma world_step_start (s : Program) (settings : Settings) :
    (s.step (.start settings)).world = (Database.start settings s.world).2 := by
  rw [step]
  split <;> next h => rw [h]

lemma world_step_connect {s : Program} {n : ℕ} {db : Database} (hn : s.databases[n]? = some db) :
    (s.step (.connect n)).world = (db.connect s.world).2 := by
  rw [step]
  simp only [hn]
  split <;> next h => rw [h]

/-- The states that a run reaches, from an engine that is set up but not started, by actions that are
allowed in the states in which they are done. -/
inductive Reached (allowed : Program → Action → Prop) : Program → Prop
  | fresh {e : MemoryEngine} (hstopped : e.initialized = false) (hsessions : e.sessions = .empty) :
      Reached allowed { world := { engine := e } }
  | step {s : Program} {action : Action} (h : Reached allowed s) (hallowed : allowed s action) :
      Reached allowed (s.step action)

/-- Every action of a run is allowed in the state in which it is done. -/
def Follows (allowed : Program → Action → Prop) : Program → List Action → Prop
  | _, [] => True
  | s, action :: actions => allowed s action ∧ Follows allowed (s.step action) actions

instance Follows.decidable {allowed : Program → Action → Prop} [∀ s action, Decidable (allowed s action)] :
    (s : Program) → (actions : List Action) → Decidable (Follows allowed s actions)
  | _, [] => .isTrue trivial
  | s, action :: actions =>
    have : Decidable (Follows allowed (s.step action) actions) := Follows.decidable _ actions
    inferInstanceAs (Decidable (allowed s action ∧ Follows allowed (s.step action) actions))

/-- A program after some actions. -/
def run (s : Program) (actions : List Action) : Program := actions.foldl step s

lemma Reached.run {allowed : Program → Action → Prop} {s : Program} (h : Reached allowed s)
    {actions : List Action} (hactions : Follows allowed s actions) : Reached allowed (s.run actions) := by
  induction actions generalizing s with
  | nil => exact h
  | cons action actions ih => exact ih (h.step hactions.1) hactions.2

/-! ### Every run -/

/-- The books of the links are sound, the databases are those that keep links, by their numbers, and every
open link is that of a connection. -/
structure Tracked (s : Program) : Prop where
  sound : s.world.Sound
  ids_eq : s.databases.map Database.id = List.range s.world.kept.size
  handedOut : ∀ {link id}, s.world.session link = some id → ∃ c ∈ s.connections, c.link = link

namespace Tracked

variable {s : Program}

lemma fresh {e : MemoryEngine} (hsessions : e.sessions = .empty) :
    Tracked { world := { engine := e } } where
  sound :=
    { inj := nofun
      le_lastHandle := nofun
      key_le := fun hid => by
        rw [Embedding.sessionIds, hsessions] at hid
        cases hid
      no_sessions := fun _ => hsessions }
  ids_eq := rfl
  handedOut := nofun

/-- A database goes by its position. -/
lemma id_eq (h : s.Tracked) {n : ℕ} {db : Database} (hn : s.databases[n]? = some db) : db.id = n := by
  have hid : (s.databases.map Database.id)[n]? = some db.id := by
    rw [List.getElem?_map, hn]
    rfl
  rw [h.ids_eq, List.getElem?_eq_some_iff] at hid
  obtain ⟨_, hid⟩ := hid
  rw [← hid, List.getElem_range]

/-- The database started last goes by the last position. -/
lemma id_eq_last (h : s.Tracked) {db : Database} (hdb : db ∈ s.databases.getLast?) :
    db.id = s.databases.length - 1 := by
  refine h.id_eq ?_
  rwa [Option.mem_def, List.getLast?_eq_getElem?] at hdb

/-- So there are as many databases as keep links. -/
lemma length_databases (h : s.Tracked) : s.databases.length = s.world.kept.size := by
  rw [← List.length_map (f := Database.id), h.ids_eq, List.length_range]

lemma start (h : s.Tracked) (settings : Settings) : (s.step (.start settings)).Tracked := by
  have hsound := h.sound.start settings
  rw [← world_step_start] at hsound
  rcases Database.start_cases settings s.world with ⟨-, hw⟩ | ⟨-, message, hw⟩ | ⟨-, hw⟩
  · rw [step, hw]
    exact h
  · rw [step, hw] at hsound ⊢
    exact ⟨hsound, h.ids_eq, h.handedOut⟩
  · rw [step, hw] at hsound ⊢
    refine ⟨hsound, ?_, h.handedOut⟩
    change _ = List.range (s.world.kept.push []).size
    rw [Array.size_push, List.range_succ, ← h.ids_eq, List.map_append]
    rfl

lemma connect (h : s.Tracked) (n : ℕ) : (s.step (.connect n)).Tracked := by
  rw [step]
  split
  · exact h
  · next db hn =>
    have hsound := h.sound.connect db
    cases hrun : s.world.engine.initialized with
    | false =>
      rw [db.connect_of_not_running hrun]
      exact h
    | true =>
      have hsize := (Embedding.size_kept_connect (w := s.world) db).symm
      have hopen {link : LinkId} {id : SessionId} := @Embedding.Sound.session_of_connect _ db hrun link id
      rw [db.connect_of_running hrun] at hsound hsize hopen ⊢
      refine ⟨hsound, h.ids_eq.trans (congrArg List.range hsize), fun hlink => ?_⟩
      rcases hopen hlink with ⟨rfl, -⟩ | hold
      · exact ⟨_, List.mem_append_right _ (List.mem_singleton_self _), rfl⟩
      · obtain ⟨c, hc, hlink⟩ := h.handedOut hold
        exact ⟨c, List.mem_append_left _ hc, hlink⟩

lemma stop (h : s.Tracked) (n : ℕ) : (s.step (.stop n)).Tracked := by
  rw [step]
  split
  · exact h
  · next db _ =>
    have hsize := Embedding.size_kept_stop (w := s.world) db
    exact ⟨h.sound.stop db, h.ids_eq.trans (congrArg List.range hsize.symm),
      fun hlink => h.handedOut (Embedding.session_of_stop db hlink)⟩

lemma close (h : s.Tracked) (n : ℕ) : (s.step (.close n)).Tracked := by
  rw [step]
  split
  · exact h
  · next c _ =>
    have hkept := Embedding.kept_close (w := s.world) c
    exact ⟨h.sound.close c, h.ids_eq.trans (congrArg (List.range ·.size) hkept.symm),
      fun hlink => h.handedOut (Embedding.session_of_close c hlink)⟩

/-- **One action.**  Every action keeps track. -/
lemma step (h : s.Tracked) (action : Action) : (s.step action).Tracked := by
  cases action with
  | failStartup message => exact ⟨h.sound.of_subset rfl id id h.sound.no_sessions, h.ids_eq, h.handedOut⟩
  | start settings => exact h.start settings
  | connect n => exact h.connect n
  | stop n => exact h.stop n
  | close n => exact h.close n
  | copy n =>
    rw [Program.step]
    split
    · exact h
    · next c hn =>
      refine ⟨h.sound, h.ids_eq, fun hlink => ?_⟩
      obtain ⟨d, hd, hlink⟩ := h.handedOut hlink
      exact ⟨d, List.mem_append_left _ hd, hlink⟩

end Tracked

/-- **A run.**  So does every run. -/
lemma Reached.tracked {allowed : Program → Action → Prop} {s : Program} (h : Reached allowed s) :
    s.Tracked := by
  induction h with
  | fresh _ hsessions => exact .fresh hsessions
  | step _ _ ih => exact ih.step _

/-! ### Runs that use the database started last -/

/-- Of all databases, an action uses at most the one that was started last. -/
def UsesLatest (s : Program) : Action → Prop
  | .connect database | .stop database => database + 1 = s.databases.length
  | _ => True

instance (s : Program) : (action : Action) → Decidable (UsesLatest s action)
  | .connect database | .stop database => inferInstanceAs (Decidable (database + 1 = s.databases.length))
  | .failStartup _ | .start _ | .copy _ | .close _ => .isTrue trivial

/-- The database started last keeps all open links, and they have the sessions of the engine. -/
def Agrees (s : Program) : Prop := s.world.KeepsAll (s.databases.length - 1)

namespace Agrees

variable {s : Program}

lemma fresh {e : MemoryEngine} (hsessions : e.sessions = .empty) :
    Agrees { world := { engine := e } } where
  mem_keptBy := nofun
  openSessions_eq := by
    rw [Embedding.sessionIds, hsessions]
    rfl

/-- A database that is used as the one started last has the last number. -/
lemma id_eq_of_usesLatest (htracked : s.Tracked) {n : ℕ} {db : Database}
    (hn : s.databases[n]? = some db) (hlatest : n + 1 = s.databases.length) :
    db.id = s.databases.length - 1 := by
  rw [htracked.id_eq hn]
  exact Nat.eq_sub_of_add_eq hlatest

lemma start (h : s.Agrees) (htracked : s.Tracked) (settings : Settings) :
    (s.step (.start settings)).Agrees := by
  rcases Database.start_cases settings s.world with ⟨-, hw⟩ | ⟨-, message, hw⟩ | ⟨hrun, hw⟩
  · rw [step, hw]
    exact h
  · rw [step, hw]
    exact ⟨h.mem_keptBy, h.openSessions_eq⟩
  · have hnew := Embedding.KeepsAll.addDatabase h htracked.sound hrun
    rw [step, hw, Agrees, List.length_append, htracked.length_databases]
    exact ⟨hnew.mem_keptBy, hnew.openSessions_eq⟩

lemma connect (h : s.Agrees) (htracked : s.Tracked) {n : ℕ} (hlatest : n + 1 = s.databases.length) :
    (s.step (.connect n)).Agrees := by
  rw [step]
  split
  · exact h
  · next db hn =>
    have hid := id_eq_of_usesLatest htracked hn hlatest
    have hlt : db.id < s.world.kept.size := by
      rw [htracked.id_eq hn, ← htracked.length_databases]
      exact Nat.lt_of_succ_le hlatest.le
    have hnew := Embedding.KeepsAll.connect db (hid ▸ h) htracked.sound hlt
    cases hrun : s.world.engine.initialized with
    | false =>
      rw [db.connect_of_not_running hrun]
      exact h
    | true =>
      rw [db.connect_of_running hrun] at hnew ⊢
      rw [Agrees, ← hid]
      exact hnew

/-- **One action.**  While only the database started last is used, it goes on to keep all open links. -/
lemma step (h : s.Agrees) (htracked : s.Tracked) {action : Action} (hlatest : UsesLatest s action) :
    (s.step action).Agrees := by
  cases action with
  | failStartup message => exact ⟨h.mem_keptBy, h.openSessions_eq⟩
  | start settings => exact h.start htracked settings
  | connect n => exact h.connect htracked hlatest
  | stop n =>
    rw [Program.step]
    split
    · exact h
    · next db hn =>
      have hid := id_eq_of_usesLatest htracked hn hlatest
      rw [Agrees, ← hid]
      exact Embedding.KeepsAll.stop db (hid ▸ h)
  | copy n =>
    rw [Program.step]
    split
    · exact h
    · exact h
  | close n =>
    rw [Program.step]
    split
    · exact h
    · next c _ => exact Embedding.KeepsAll.close h htracked.sound c

end Agrees

/-- **A run.**  So it does along every such run. -/
lemma Reached.agrees {s : Program} (h : Reached UsesLatest s) : s.Agrees := by
  induction h with
  | fresh _ hsessions => exact .fresh hsessions
  | step h hlatest ih => exact ih.step h.tracked hlatest

/-- **The books agree.**  In every state of a run that uses the database started last alone, the sessions
of the engine are those of the open connections, and no two links share one; that database counts as many
live connections as the engine counts sessions; and there is none while the engine does not run.  A start
while it runs fails and changes nothing.  After a stop that succeeds, the engine does not run, and every
connection that was ever handed out, and every copy of it, is closed. -/
theorem bookkeeping_agrees {s : Program} (h : Reached UsesLatest s) :
    ((∀ id, s.world.engine.sessions.contains id = true
          ↔ ∃ c ∈ s.connections, s.world.session c.link = some id)
        ∧ ∀ c ∈ s.connections, ∀ d ∈ s.connections, ∀ id,
          s.world.session c.link = some id → s.world.session d.link = some id → c.link = d.link)
      ∧ (∀ db ∈ s.databases.getLast?, db.liveConnections s.world = s.world.engine.sessionCount)
      ∧ (s.world.engine.sessionCount ≠ 0 → s.world.engine.initialized = true)
      ∧ (∀ settings, s.world.engine.initialized = true →
          Database.start settings s.world = (.error .alreadyRunning, s.world))
      ∧ ∀ db ∈ s.databases.getLast?, ∀ u, db.stop s.world = (.ok (), u) →
          u.engine.initialized = false ∧ ∀ c ∈ s.connections, c.isClosed u = true := by
  have htracked := h.tracked
  have hagrees := h.agrees
  refine ⟨⟨fun id => ?_, fun c _ d _ id => htracked.sound.inj⟩, fun db hdb => ?_, ?_, ?_, ?_⟩
  · calc s.world.engine.sessions.contains id = true ↔ id ∈ s.world.sessionIds := Ledger.contains_iff_mem
      _ ↔ ∃ link, s.world.session link = some id := hagrees.mem_sessionIds_iff id
      _ ↔ ∃ c ∈ s.connections, s.world.session c.link = some id := by
        constructor
        · rintro ⟨link, hlink⟩
          obtain ⟨c, hc, rfl⟩ := htracked.handedOut hlink
          exact ⟨c, hc, hlink⟩
        · rintro ⟨c, -, hlink⟩
          exact ⟨c.link, hlink⟩
  · rw [Database.liveConnections, htracked.id_eq_last hdb]
    exact hagrees.countP_isOpen
  · intro hcount
    by_contra hrun
    rw [MemoryEngine.sessionCount, htracked.sound.no_sessions (Bool.eq_false_iff.mpr hrun)] at hcount
    exact hcount rfl
  · exact fun settings hrun => Database.start_of_running settings hrun
  · intro db hdb u hu
    cases hrun : s.world.engine.initialized with
    | false =>
      rw [db.stop_of_not_running hrun] at hu
      cases hu
    | true =>
      rw [db.stop_of_running hrun] at hu
      cases hu
      refine ⟨rfl, fun c _ => Option.isNone_iff_eq_none.mpr ?_⟩
      rw [Option.eq_none_iff_forall_ne_some]
      intro id hlink
      obtain ⟨hkept, hopen⟩ := s.world.session_of_closeKept hlink
      rw [htracked.id_eq_last hdb] at hkept
      exact hkept (hagrees.mem_keptBy hopen)

/-- Two databases, the first of which could be started in the second attempt only. A connection of the
second one is closed through its copy, and another one is open. -/
theorem bookkeeping_agrees_afterRestart :
    let settings : Settings := ⟨none, true, false, 100, {}, "info", false⟩
    let fresh : Program := { world := { engine := .failingStartup "no license" } }
    let s := fresh.run [.start settings, .start settings, .connect 0, .stop 0, .start settings, .connect 1,
      .copy 1, .connect 1, .close 2]
    Reached UsesLatest s ∧ s.connections.length = 4 ∧ s.world.engine.sessionCount = 1
      ∧ (∃ c ∈ s.connections, s.world.session c.link = some 3)
      ∧ Database.start settings s.world = (.error .alreadyRunning, s.world)
      ∧ ∃ db ∈ s.databases.getLast?, db.liveConnections s.world = 1
        ∧ ∃ u, db.stop s.world = (.ok (), u) ∧ u.engine.initialized = false
          ∧ ∀ c ∈ s.connections, c.isClosed u = true := by
  intro settings fresh s
  have hreached : Reached UsesLatest s := (Reached.fresh rfl rfl).run (by decide +kernel)
  have hcount : s.world.engine.sessionCount = 1 := by decide +kernel
  have hrun : s.world.engine.initialized = true := by decide +kernel
  obtain ⟨db, hdb⟩ : ∃ db, s.databases.getLast? = some db :=
    Option.isSome_iff_exists.mp (by decide +kernel)
  obtain ⟨⟨hsessions, -⟩, hlive, -, hstart, hstop⟩ := bookkeeping_agrees hreached
  refine ⟨hreached, by decide +kernel, hcount, (hsessions 3).mp (by decide +kernel),
    hstart settings hrun, db, hdb, (hlive db hdb).trans hcount, _, db.stop_of_running hrun, ?_⟩
  exact hstop db hdb _ (db.stop_of_running hrun)

end Program

end ColumnBridge
