import ColumnBridge.Column

/-!
What an engine does for the layers above it.

* `StorageEngine`: the calls on an engine, as transitions of its state that a failure may end;
* `QueryOutput`: what a statement leaves behind, described by columns that a caller can fix;
* `EngineError.normalized`: the part of a raw engine message that is meant for people.
-/

namespace ColumnBridge

/-- A session of an engine. -/
abbrev SessionId := Nat

/-- A statement output of an engine. -/
abbrev ResultId := Nat

/-- A column of a statement output. -/
abbrev ColumnId := Nat

/-- A failure of an engine, with its raw message. -/
structure EngineError where
  message : String
  deriving DecidableEq, Repr

/-- A raw engine message without its marker, which ends at the first exclamation mark. -/
def normalizeMessage (raw : String) : String :=
  match raw.toList.dropWhile (· != '!') with
  | [] => raw
  | _ :: rest => String.ofList rest

/-- The part of the message that is meant for people. -/
def EngineError.normalized (e : EngineError) : String := normalizeMessage e.message

/-- What a statement does. -/
inductive QueryKind
  | table
  | update
  | schema
  | transaction
  | prepare
  | block
  deriving DecidableEq, Repr

namespace QueryKind

/-- All kinds of statements. -/
def all : List QueryKind := [table, update, schema, transaction, prepare, block]

/-- The statements that produce rows. -/
def isTabular : QueryKind → Bool
  | table | block => true
  | _ => false

/-- The name of a kind. -/
def name : QueryKind → String
  | table => "Table"
  | update => "Update"
  | schema => "Schema"
  | transaction => "Transaction"
  | prepare => "Prepare"
  | block => "Block"

end QueryKind

/-- A column of a statement output, before it is fixed. -/
structure ColumnDescription where
  name : String
  sqlType : String
  digits : Nat
  scale : Nat
  id : ColumnId
  deriving DecidableEq, Repr

/-- What a statement leaves behind. -/
structure QueryOutput where
  id : ResultId
  kind : QueryKind
  rowCount : Nat
  affectedRows : Int64
  prepareId : Option Int64
  columns : List ColumnDescription
  deriving DecidableEq, Repr

/-- How an engine is started. -/
structure StartupOptions where
  /-- Where the data lies, none for a database in memory. -/
  directory : Option String := none
  silent : Bool := false
  sequential : Bool := false
  deriving DecidableEq, Repr

/-- A column of a stored table. -/
structure TableColumn where
  name : String
  sqlType : String
  digits : Nat := 0
  scale : Nat := 0
  nullable : Bool := false
  default : Option String := none
  deriving DecidableEq, Repr

/-- A call on an engine whose state is a `σ`. A failure keeps the state that it leaves. -/
abbrev EngineM (σ : Type) : Type → Type := ExceptT EngineError (StateM σ)

/-- The calls on an engine. -/
class StorageEngine (σ : Type) where
  startup : StartupOptions → EngineM σ Unit
  shutdown : EngineM σ Unit
  isInitialized : σ → Bool
  connect : EngineM σ SessionId
  disconnect : SessionId → EngineM σ Unit
  autocommit : SessionId → EngineM σ Bool
  setAutocommit : SessionId → Bool → EngineM σ Unit
  setReplySize : SessionId → Nat → EngineM σ Unit
  /-- Run a statement. -/
  query : SessionId → String → EngineM σ QueryOutput
  /-- Forget a statement output. -/
  cleanupResult : ResultId → EngineM σ Unit
  closeResult : SessionId → Int64 → EngineM σ Unit
  releasePrepared : SessionId → Int64 → EngineM σ Unit
  /-- The columns of a table, by schema and name. -/
  table : SessionId → String → String → EngineM σ (List TableColumn)
  /-- Add rows to a table. -/
  append : SessionId → String → String → List Column → EngineM σ Unit
  /-- Take a reference to a column. -/
  fixColumn : ColumnId → EngineM σ Column
  /-- Give a reference to a column back. -/
  unfixColumn : ColumnId → σ → σ

end ColumnBridge
