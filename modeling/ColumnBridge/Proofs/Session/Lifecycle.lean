import ColumnBridge.Engine.Memory
import ColumnBridge.Proofs.Session.Ends
import ColumnBridge.Proofs.Session.Links
import ColumnBridge.Session.Database

/-!
Starting, stopping, connecting and closing, on an engine in memory.

* `Database.start_of_running`, `start_of_pending`, `start_of_ready`: the three ways to start, and
  `Database.start_cases`: there is no other;
* `Database.stop_of_not_running`, `stop_of_running`, `connect_of_not_running`, `connect_of_running`: what
  stopping and connecting do depends on whether the engine runs, and not on the database;
* `Connection.close_of_closed`, `snd_close_of_open`: closing, and `Connection.IsLive`: an open connection
  with a session.
-/

namespace ColumnBridge

/-! ### Calls on the engine -/

namespace MemoryEngine

variable {e : MemoryEngine}

lemma startup_of_pending {message : String} (h : e.startupError = some message)
    (options : StartupOptions) :
    startup options e = (.error ⟨message⟩, { e with startupError := none }) := by
  rw [startup, get_bind_apply]
  simp only [h]
  rfl

lemma startup_of_ready (h : e.startupError = none) (options : StartupOptions) :
    startup options e = (.ok (), { e with initialized := true, startupOptions := some options }) := by
  rw [startup, get_bind_apply]
  simp only [h]
  rfl

lemma shutdown_of_initialized (h : e.initialized = true) :
    shutdown e = (.ok (), { e with initialized := false, sessions := .empty }) := by
  rw [shutdown, get_bind_apply, if_pos h]
  rfl

/-- A new session, under the next number. -/
lemma connect_of_initialized (h : e.initialized = true) :
    connect e = (.ok (e.lastHandle + 1),
      { e with
        lastHandle := e.lastHandle + 1
        sessions := e.sessions.insert (e.lastHandle + 1) {} }) := by
  rw [connect, get_bind_apply, if_pos h]
  rfl

/-- A session that is there is found. -/
lemma session_of_get {id : SessionId} {s : EngineSession} (h : e.sessions.get id = some s) :
    session id e = (.ok s, e) := by
  rw [session, get_bind_apply, h]
  rfl

/-- One that is not there is missed. -/
lemma session_of_none {id : SessionId} (h : e.sessions.get id = none) :
    session id e = (.error (noSession "session" id), e) := by
  rw [session, get_bind_apply, h]
  rfl

lemma changeSession_of_contains {id : SessionId} (h : e.sessions.contains id = true)
    (f : EngineSession → EngineSession) :
    changeSession id f e = (.ok (), { e with sessions := e.sessions.modify id f }) := by
  obtain ⟨s, hs⟩ := Option.isSome_iff_exists.mp h
  rw [changeSession, bind_apply_of_ok (session_of_get hs)]
  rfl

/-- A session is closed, if it is there. -/
lemma snd_disconnect (id : SessionId) :
    (disconnect id e).2 = { e with sessions := e.sessions.erase id } := by
  rw [disconnect, get_bind_apply]
  split_ifs with h
  · rfl
  · rw [Ledger.erase_of_not_contains (Bool.eq_false_iff.mpr h)]
    rfl

end MemoryEngine

/-! ### Steps of a session -/

namespace SessionM

variable {σ α : Type} {w : Embedding σ}

lemma onEngine_of_ok {run : EngineM σ α} {a : α} {e : σ} (h : run w.engine = (.ok a, e)) :
    onEngine run w = (.ok a, { w with engine := e }) := by
  rw [onEngine, h]
  rfl

lemma onEngine_of_error {run : EngineM σ α} {failure : EngineError} {e : σ}
    (h : run w.engine = (.error failure, e)) :
    onEngine run w = (.error (.ofEngine failure), { w with engine := e }) := by
  rw [onEngine, h]
  rfl

/-- A step that returns is not undone. -/
lemma onFailure_of_ok {step : SessionM σ α} {undo : SessionM σ Unit} {a : α} {t : Embedding σ}
    (h : step w = (.ok a, t)) : onFailure step undo w = (.ok a, t) := by
  simp only [onFailure, tryCatch, tryCatchThe, MonadExceptOf.tryCatch, ExceptT.tryCatch,
    ExceptT.mk, bind, StateT.bind, h]
  rfl

/-- A step that fails is undone. -/
lemma onFailure_of_error {step : SessionM σ α} {undo : SessionM σ Unit} {failure : SessionError}
    {t u : Embedding σ} (h : step w = (.error failure, t)) (hundo : undo t = (.ok (), u)) :
    onFailure step undo w = (.error failure, u) := by
  have hstep : onFailure step undo w = (undo >>= fun _ => throw failure) t := by
    simp only [onFailure, tryCatch, tryCatchThe, MonadExceptOf.tryCatch, ExceptT.tryCatch,
      ExceptT.mk, bind, StateT.bind, h]
  exact hstep.trans (bind_apply_of_ok hundo)

/-- Closing sessions without hearing of failures changes nothing but the sessions. -/
lemma exists_disconnectAll_eq (ids : List SessionId) (w : Embedding MemoryEngine) :
    ∃ sessions, ids.forM (fun id => quietly (StorageEngine.disconnect id)) w
      = (.ok (), { w with engine := { w.engine with sessions } }) := by
  induction ids generalizing w with
  | nil => exact ⟨w.engine.sessions, rfl⟩
  | cons id ids ih =>
    have hfirst : quietly (StorageEngine.disconnect id) w
        = (.ok (), { w with engine := { w.engine with sessions := w.engine.sessions.erase id } }) := by
      rw [← MemoryEngine.snd_disconnect]
      rfl
    obtain ⟨sessions, hrest⟩ := ih _
    exact ⟨sessions, (bind_apply_of_ok hfirst).trans hrest⟩

end SessionM

namespace Database

open MemoryEngine SessionM

variable {w : Embedding MemoryEngine} (db : Database) (settings : Settings)

lemma isRunning_eq (w : Embedding MemoryEngine) : isRunning w = w.engine.initialized := rfl

/-! ### Starting -/

/-- While the engine runs, no database is started, and nothing changes. -/
lemma start_of_running (h : w.engine.initialized = true) :
    start settings w = (.error .alreadyRunning, w) := by
  rw [start, get_bind_apply, isRunning_eq, if_pos h]
  rfl

/-- A pending failure of the engine is used up. -/
lemma start_of_pending {message : String} (h : w.engine.initialized = false)
    (hpending : w.engine.startupError = some message) :
    start settings w
      = (.error (.ofRaw message), { w with engine := { w.engine with startupError := none } }) := by
  rw [start, get_bind_apply, isRunning_eq, if_neg (Bool.eq_false_iff.mp h)]
  exact bind_apply_of_error (onEngine_of_error (startup_of_pending hpending _))

/-- Otherwise a stopped engine is started for a new database. -/
lemma start_of_ready (h : w.engine.initialized = false) (hready : w.engine.startupError = none) :
    start settings w
      = (.ok ⟨w.kept.size, settings⟩,
        { w with
          engine :=
            { w.engine with
              initialized := true
              startupOptions := some (startupOptions settings) }
          kept := w.kept.push [] }) := by
  rw [start, get_bind_apply, isRunning_eq, if_neg (Bool.eq_false_iff.mp h)]
  exact (bind_apply_of_ok (onEngine_of_ok (startup_of_ready hready _))).trans rfl

/-- There is no other way to start. -/
lemma start_cases (settings : Settings) (w : Embedding MemoryEngine) :
    (w.engine.initialized = true ∧ start settings w = (.error .alreadyRunning, w))
      ∨ (w.engine.initialized = false ∧ ∃ message, start settings w
        = (.error (.ofRaw message), { w with engine := { w.engine with startupError := none } }))
      ∨ w.engine.initialized = false ∧ start settings w
        = (.ok ⟨w.kept.size, settings⟩,
          { w with
            engine :=
              { w.engine with
                initialized := true
                startupOptions := some (startupOptions settings) }
            kept := w.kept.push [] }) := by
  cases hrun : w.engine.initialized with
  | true => exact .inl ⟨rfl, start_of_running settings hrun⟩
  | false =>
    cases hpending : w.engine.startupError with
    | some message => exact .inr (.inl ⟨rfl, message, start_of_pending settings hrun hpending⟩)
    | none => exact .inr (.inr ⟨rfl, start_of_ready settings hrun hpending⟩)

/-! ### Stopping and connecting -/

/-- While the engine does not run, nothing is stopped. -/
lemma stop_of_not_running (h : w.engine.initialized = false) : db.stop w = (.error .notRunning, w) := by
  rw [stop, get_bind_apply, isRunning_eq, h, Bool.not_false, if_pos rfl]
  rfl

/-- Else the engine is stopped, and the connections that the database keeps are closed. -/
lemma stop_of_running (h : w.engine.initialized = true) :
    db.stop w
      = (.ok (),
        { w.closeKept db.id with
          engine := { w.engine with initialized := false, sessions := .empty } }) := by
  obtain ⟨sessions, hclosed⟩ := exists_disconnectAll_eq (w.openSessions db.id) (w.closeKept db.id)
  rw [Embedding.engine_closeKept] at hclosed
  rw [stop, get_bind_apply, isRunning_eq, h, Bool.not_true, if_neg Bool.false_ne_true]
  beta_reduce
  rw [get_bind_apply, modify_bind_apply]
  refine (bind_apply_of_ok hclosed).trans ?_
  rw [get_bind_apply, isRunning_eq]
  simp only [h, Bool.not_true, Bool.false_eq_true, if_false]
  exact onEngine_of_ok (shutdown_of_initialized rfl)

/-- While the engine does not run, no connection is opened. -/
lemma connect_of_not_running (h : w.engine.initialized = false) :
    db.connect w = (.error .notRunning, w) := by
  rw [connect, get_bind_apply, isRunning_eq, h, Bool.not_false, if_pos rfl]
  rfl

/-- Else there is a session with the reply size of the settings, and a link to it. -/
lemma connect_of_running (h : w.engine.initialized = true) :
    db.connect w
      = (.ok ⟨w.links.size, db.settings.marshal⟩,
        { w with
          engine :=
            { w.engine with
              lastHandle := w.engine.lastHandle + 1
              sessions :=
                (w.engine.sessions.insert (w.engine.lastHandle + 1) {}).modify (w.engine.lastHandle + 1)
                  fun s => { s with replySize := db.settings.replySize } } }.openLink db.id
          (w.engine.lastHandle + 1)) := by
  rw [connect, get_bind_apply, isRunning_eq, h, Bool.not_true, if_neg Bool.false_ne_true]
  beta_reduce
  refine (bind_apply_of_ok (onEngine_of_ok (connect_of_initialized h))).trans ?_
  refine (bind_apply_of_ok (onFailure_of_ok (onEngine_of_ok (changeSession_of_contains ?_ _)))).trans rfl
  rw [Ledger.contains, Ledger.get_insert_self]
  rfl

end Database

namespace Connection

open MemoryEngine SessionM

variable (c : Connection) {w : Embedding MemoryEngine}

/-! ### Closing -/

/-- A connection is open, and the engine has its session. -/
def IsLive (w : Embedding MemoryEngine) : Prop :=
  ∃ id, w.session c.link = some id ∧ w.engine.sessions.contains id = true

/-- A connection is open if its link stands for a session. -/
lemma isClosed_eq_false_iff : c.isClosed w = false ↔ ∃ id, w.session c.link = some id := by
  rw [isClosed, Option.isNone_eq_false_iff, Option.isSome_iff_exists]

lemma close_of_closed {σ : Type} [StorageEngine σ] {w : Embedding σ} (h : w.session c.link = none) :
    c.close w = (.ok (), w) := by
  rw [close, get_bind_apply]
  simp only [h]
  rfl

/-- The link is closed, and so is its session, if it is there. -/
lemma snd_close_of_open {id : SessionId} (h : w.session c.link = some id) :
    (c.close w).2
      = { w.closeLink c.link with
          engine := { w.engine with sessions := w.engine.sessions.erase id } } := by
  rw [close, get_bind_apply]
  simp only [h]
  rw [modify_bind_apply, ← snd_disconnect]
  rfl

end Connection

end ColumnBridge
