import ColumnBridge.Engine.Memory
import ColumnBridge.Proofs.Session.Keeps

/-!
The calls on an engine in memory that are not about outputs.

* `MemoryEngine.Quiet`: what they all leave as it is;
* `MemoryEngine.quiets_startup` and so on: every call but those that give numbers out or are about outputs
  and their columns.
-/

namespace ColumnBridge.MemoryEngine

/-- Outputs and columns are as before, no number was given out, and no session is new. -/
structure Quiet (e e' : MemoryEngine) : Prop where
  results_eq : e'.results = e.results
  columns_eq : e'.columns = e.columns
  cleanups_eq : e'.cleanups = e.cleanups
  handle_eq : e'.lastHandle = e.lastHandle
  session_old : ∀ id, e'.sessions.contains id = true → e.sessions.contains id = true

namespace Quiet

variable {e e' : MemoryEngine}

lemma of_sessions_eq (hsessions : e'.sessions = e.sessions) (hresults : e'.results = e.results)
    (hcolumns : e'.columns = e.columns) (hcleanups : e'.cleanups = e.cleanups)
    (hhandle : e'.lastHandle = e.lastHandle) : Quiet e e' :=
  ⟨hresults, hcolumns, hcleanups, hhandle, fun _ h => hsessions ▸ h⟩

lemma refl (e : MemoryEngine) : Quiet e e := of_sessions_eq rfl rfl rfl rfl rfl

end Quiet

variable {e : MemoryEngine}

/-! ### Sessions -/

lemma quiets_startup (options : StartupOptions) : Keeps Quiet (startup options) := by
  intro e
  rw [startup]
  simp only [ends_bind, ends_get]
  split <;> exact .of_sessions_eq rfl rfl rfl rfl rfl

lemma quiets_shutdown : Keeps Quiet shutdown := by
  intro e
  have hnone : ∀ id, (Ledger.empty : Ledger SessionId EngineSession).contains id = true →
      e.sessions.contains id = true := fun id h => absurd h Bool.false_ne_true
  rw [shutdown]
  simp only [ends_bind, ends_get, ends_ite, ends_set, ends_throw]
  exact ⟨fun _ => ⟨rfl, rfl, rfl, rfl, hnone⟩, fun _ => .refl e⟩

lemma quiets_disconnect (id : SessionId) : Keeps Quiet (disconnect id) := by
  intro e
  rw [disconnect]
  simp only [ends_bind, ends_get, ends_ite, ends_set, ends_throw]
  exact ⟨fun _ => ⟨rfl, rfl, rfl, rfl, fun _ => Ledger.contains_of_filter⟩, fun _ => .refl e⟩

/-- Looking a session up changes nothing at all. -/
lemma ends_session (id : SessionId) {done : EngineSession → MemoryEngine → Prop}
    {failed : MemoryEngine → Prop} (hdone : ∀ s, done s e) (hfailed : failed e) :
    Ends (session id) e done failed := by
  rw [session]
  simp only [ends_bind, ends_get]
  split
  · exact hdone _
  · exact hfailed

lemma quiets_autocommit (id : SessionId) :
    Keeps Quiet (StorageEngine.autocommit id : EngineM MemoryEngine Bool) := by
  intro e
  exact ends_bind.mpr (ends_session id (fun _ => .refl e) (.refl e))

/-- Changing an open session opens none. -/
lemma quiets_changeSession (id : SessionId) (f : EngineSession → EngineSession) :
    Keeps Quiet (changeSession id f) := by
  intro e
  have hold : ∀ other, (e.sessions.modify id f).contains other = true →
      e.sessions.contains other = true := fun other h => by rwa [Ledger.contains_modify] at h
  exact ends_bind.mpr (ends_session id (fun _ => ⟨rfl, rfl, rfl, rfl, hold⟩) (.refl e))

lemma quiets_closeResult (id : SessionId) (result : Int64) : Keeps Quiet (closeResult id result) := by
  intro e
  exact ends_bind.mpr (ends_session id (fun _ => .of_sessions_eq rfl rfl rfl rfl rfl) (.refl e))

lemma quiets_releasePrepared (id : SessionId) (statement : Int64) :
    Keeps Quiet (releasePrepared id statement) := by
  intro e
  exact ends_bind.mpr (ends_session id (fun _ => .of_sessions_eq rfl rfl rfl rfl rfl) (.refl e))

/-! ### Tables -/

lemma quiets_table (id : SessionId) (schema name : String) : Keeps Quiet (table id schema name) := by
  intro e
  refine ends_bind.mpr (ends_session id (fun _ => ?_) (.refl e))
  simp only [ends_bind, ends_get]
  split <;> exact .refl e

lemma quiets_append (id : SessionId) (schema name : String) (columns : List Column) :
    Keeps Quiet (append id schema name columns) := by
  intro e
  refine ends_bind.mpr (ends_session id (fun _ => ?_) (.refl e))
  simp only [ends_bind, ends_get]
  split
  · exact .of_sessions_eq rfl rfl rfl rfl rfl
  · split
    · exact .refl e
    · simp only [ends_ite, ends_throw, ends_set]
      exact ⟨fun _ => .refl e, fun _ => .of_sessions_eq rfl rfl rfl rfl rfl⟩

/-! ### References that are refused -/

/-- Counting the references that are taken is quiet, whether one is refused or not. -/
lemma quiets_countLookup (key : ColumnId) : Keeps Quiet (countLookup key) := by
  intro e
  rw [countLookup]
  simp only [ends_bind, ends_get]
  split
  · exact .refl e
  · exact .of_sessions_eq rfl rfl rfl rfl rfl
  · exact .of_sessions_eq rfl rfl rfl rfl rfl

end ColumnBridge.MemoryEngine
