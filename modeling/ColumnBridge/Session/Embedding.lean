import ColumnBridge.Session.Error

/-!
An engine embedded in a program, and the links that its connections hold.

Every copy of a connection shares one link, so that closing one closes all. A database keeps the links of
the connections that it opens.

* `Embedding`, `Link`: the shared state;
* `Embedding.openLink`, `Embedding.closeLink`, `Embedding.closeKept`: a database keeps a new link, a link is
  closed, and a database closes and forgets all links that it keeps;
* `SessionM`: what the session layer does to it, with a failure that keeps the state it leaves;
* `onEngine`, `quietly`: a call on the engine, with and without its failure.
-/

namespace ColumnBridge

/-- A database that was started. -/
abbrev DatabaseId := Nat

/-- A link between connections and a session of the engine. -/
abbrev LinkId := Nat

/-- What the copies of a connection share. -/
structure Link where
  /-- The session, none once the connection is closed. -/
  session : Option SessionId
  deriving DecidableEq, Repr

/-- An embedded engine and the links that its connections hold. -/
structure Embedding (σ : Type) where
  engine : σ
  links : Array Link := #[]
  /-- The links that each database keeps, in the order in which the databases were started. -/
  kept : Array (List LinkId) := #[]

/-- A step of the session layer. A failure keeps the state that it leaves. -/
abbrev SessionM (σ : Type) : Type → Type := ExceptT SessionError (StateM (Embedding σ))

namespace Embedding

variable {σ : Type}

/-- The session of a link. -/
def session (w : Embedding σ) (link : LinkId) : Option SessionId :=
  w.links[link]?.bind Link.session

/-- Whether a link is open. -/
def isOpen (w : Embedding σ) (link : LinkId) : Bool := (w.session link).isSome

/-- Close a link. -/
def closeLink (w : Embedding σ) (link : LinkId) : Embedding σ :=
  { w with links := w.links.modify link fun l => { l with session := none } }

/-- The links that a database keeps. -/
def keptBy (w : Embedding σ) (database : DatabaseId) : List LinkId := w.kept[database]?.getD []

/-- The sessions of the open links that a database keeps. -/
def openSessions (w : Embedding σ) (database : DatabaseId) : List SessionId :=
  (w.keptBy database).filterMap w.session

/-- A new database, which keeps no links. -/
def addDatabase (w : Embedding σ) : Embedding σ := { w with kept := w.kept.push [] }

/-- A new link to a session, kept by a database, which lets go of the links that are closed. -/
def openLink (w : Embedding σ) (database : DatabaseId) (session : SessionId) : Embedding σ :=
  { w with
    links := w.links.push ⟨some session⟩
    kept := w.kept.modify database fun links => links.filter w.isOpen ++ [w.links.size] }

/-- Close all links that a database keeps, and let go of them. -/
def closeKept (w : Embedding σ) (database : DatabaseId) : Embedding σ :=
  { (w.keptBy database).foldl closeLink w with kept := w.kept.modify database fun _ => [] }

end Embedding

namespace SessionM

variable {σ α : Type}

/-- A call on the engine. -/
def onEngine (run : EngineM σ α) : SessionM σ α := fun w =>
  let (result, engine) := run w.engine
  (result.mapError SessionError.ofEngine, { w with engine })

/-- A call on the engine whose failure nobody hears of. -/
def quietly (run : EngineM σ Unit) : SessionM σ Unit := fun w =>
  let (_, engine) := run w.engine
  (.ok (), { w with engine })

/-- A step that is followed by another one if it fails. -/
def onFailure (step : SessionM σ α) (undo : SessionM σ Unit) : SessionM σ α :=
  tryCatch step fun e => do
    undo
    throw e

end SessionM

end ColumnBridge
