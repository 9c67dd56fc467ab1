import ColumnBridge.Session.Connection
import ColumnBridge.Settings

/-!
Databases: one at a time, with the connections that it opened.

* `Database.start`, `Database.stop`: only while no database, or some database, is running;
* `Database.connect`: a session with the reply size of the settings, or none;
* `Database.liveConnections`: the connections that are not closed.
-/

namespace ColumnBridge

/-- A database that was started. -/
structure Database where
  id : DatabaseId
  settings : Settings

namespace Database

variable {σ : Type} [StorageEngine σ]

open SessionM

/-- Whether the engine is running. -/
def isRunning (w : Embedding σ) : Bool := StorageEngine.isInitialized w.engine

/-- How settings start an engine. -/
def startupOptions (settings : Settings) : StartupOptions :=
  ⟨settings.directory, settings.silent, settings.sequential⟩

/-- Start a database. -/
def start (settings : Settings) : SessionM σ Database := do
  if isRunning (← get) then throw .alreadyRunning
  onEngine (StorageEngine.startup (startupOptions settings))
  let id := (← get).kept.size
  modify Embedding.addDatabase
  return ⟨id, settings⟩

/-- Close all connections of a database and stop the engine. -/
def stop (db : Database) : SessionM σ Unit := do
  if !isRunning (← get) then throw .notRunning
  let sessions := (← get).openSessions db.id
  modify fun w => w.closeKept db.id
  sessions.forM fun id => quietly (StorageEngine.disconnect id)
  if !isRunning (← get) then throw .notRunning
  onEngine StorageEngine.shutdown

/-- Open a connection. -/
def connect (db : Database) : SessionM σ Connection := do
  if !isRunning (← get) then throw .notRunning
  let id ← onEngine StorageEngine.connect
  onFailure (onEngine (StorageEngine.setReplySize id db.settings.replySize))
    (quietly (StorageEngine.disconnect id))
  let link := (← get).links.size
  modify fun w => w.openLink db.id id
  return ⟨link, db.settings.marshal⟩

/-- The number of connections that a database keeps and nobody has closed. -/
def liveConnections (db : Database) (w : Embedding σ) : Nat := (w.keptBy db.id).countP w.isOpen

end Database

end ColumnBridge
