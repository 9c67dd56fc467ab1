import ColumnBridge.Engine.Basic

/-!
The failures that a user of an embedded engine sees.

* `SessionError`: six classes of failures, each with a message for people;
* `SessionError.ofEngine`, `SessionError.ofMarshal`: the failures of the layers below;
* the failures of the session layer itself, by name.
-/

namespace ColumnBridge

/-- A failure of the session layer. -/
inductive SessionError
  /-- The object is in no state to do it. -/
  | interface (message : String)
  /-- The call makes no sense for the statement or the arguments. -/
  | programming (message : String)
  /-- The engine refused. -/
  | engine (message : String)
  /-- A value could not be marshalled. -/
  | data (message : String)
  | outOfMemory (message : String)
  /-- The settings make no sense. -/
  | config (message : String)
  deriving DecidableEq, Repr

namespace SessionError

/-- The message for people. -/
def message : SessionError → String
  | interface m | programming m | engine m | data m | outOfMemory m | config m => m

/-- The name of the class of a failure. -/
def className : SessionError → String
  | interface _ => "InterfaceError"
  | programming _ => "ProgrammingError"
  | engine _ => "EngineError"
  | data _ => "DataError"
  | outOfMemory _ => "OutOfMemoryError"
  | config _ => "ConfigError"

/-- The message with the name of its class. -/
def display (e : SessionError) : String := s!"{e.className}: {e.message}"

/-! ### Failures of the layers below -/

/-- A raw engine message, without its marker. -/
def ofRaw (raw : String) : SessionError := engine (normalizeMessage raw)

/-- A failure of the engine. -/
def ofEngine (e : EngineError) : SessionError := ofRaw e.message

/-- A failure of the marshalling layer. -/
def ofMarshal (e : MarshalError) : SessionError :=
  match e with
  | .outOfMemory _ => outOfMemory e.message
  | _ => data e.message

/-! ### Failures of this layer -/

def connectionClosed : SessionError := interface "Connection already closed?"

def alreadyRunning : SessionError :=
  interface "Only one MonetDB Embedded database is allowed per process"

def notRunning : SessionError := interface "The MonetDB Embedded database is not running"

def noResultSet : SessionError := programming "The query did not produce a result set"

def noPreparedStatement : SessionError :=
  programming "The query did not produce a prepared statement"

def noColumns : SessionError := programming "There query returned no results?"

def inconsistentRows : SessionError :=
  programming "The row sizes between columns are not consistent"

/-- An array whose elements the column at a position, from 1, does not take. -/
def wrongArrayClass (column : Nat) (label : String) : SessionError :=
  programming s!"The array at column {column} must be a {label} array!"

def noSuchColumn (index count : Nat) : SessionError :=
  programming s!"column index {index} out of range for {count} columns"

def wrongArrayCount (schema name : String) (columns arrays : Nat) : SessionError :=
  programming s!"The table {schema}.{name} has {columns} columns but {arrays} arrays were given"

end SessionError

/-- A result of the marshalling layer, with its failure as one of the session layer. -/
def liftMarshal {α : Type} (r : Except MarshalError α) : Except SessionError α :=
  r.mapError SessionError.ofMarshal

/-- The same where arithmetic may overflow. -/
def liftFetch {α : Type} (r : Except (Halt MarshalError) α) : Except (Halt SessionError) α :=
  r.mapError (Halt.map SessionError.ofMarshal)

end ColumnBridge
