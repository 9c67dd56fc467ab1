import ColumnBridge.MarshalOptions
import ColumnBridge.Session.Error

/-!
The settings of an embedded database.

* `SettingsDraft`: settings on their way, from the defaults through files, environment and calls;
* `SettingsDraft.build`: the settings that come of a draft; the only draft that makes none has an empty
  directory.
-/

namespace ColumnBridge

/-- The settings of an embedded database. -/
structure Settings where
  /-- Where the data lies, none for a database in memory. -/
  directory : Option String
  silent : Bool
  sequential : Bool
  replySize : Nat
  marshal : MarshalOptions
  logLevel : String
  jsonLogs : Bool
  deriving DecidableEq, Repr

/-- Whether the database keeps its data in memory. -/
def Settings.isInMemory (s : Settings) : Bool := s.directory.isNone

/-- Settings on their way. -/
structure SettingsDraft where
  directory : Option String := none
  silent : Bool := true
  sequential : Bool := false
  replySize : Nat := 100
  marshal : MarshalOptions := {}
  /-- An empty level stands for the default one. -/
  logLevel : String := ""
  jsonLogs : Bool := false
  deriving DecidableEq, Repr

namespace SettingsDraft

/-- The directory that stands for a database in memory. -/
def inMemory : String := ":memory:"

/-- The log level that an empty one stands for. -/
def defaultLogLevel : String := "info"

/-- A draft with a reply size; a size of zero is no size and changes nothing. -/
def withReplySize (d : SettingsDraft) (size : Nat) : SettingsDraft :=
  if size = 0 then d else { d with replySize := size }

/-- A draft with a bias of the host clock. -/
def withTimeBias (d : SettingsDraft) (bias : Int64) : SettingsDraft :=
  { d with marshal := { d.marshal with timeBias := bias } }

/-- A draft with a place of nil. -/
def withNullOrdering (d : SettingsDraft) (ordering : NullOrdering) : SettingsDraft :=
  { d with marshal := { d.marshal with nullOrdering := ordering } }

/-- A draft with a rounding mode. -/
def withRounding (d : SettingsDraft) (mode : RoundingMode) : SettingsDraft :=
  { d with marshal := { d.marshal with rounding := mode } }

/-- The directory of the settings, none for a database in memory. -/
def settledDirectory (d : SettingsDraft) : Except SessionError (Option String) :=
  match d.directory with
  | none => .ok none
  | some path =>
    if path = inMemory then .ok none
    else if path = "" then .error (.config "database directory must not be empty")
    else .ok (some path)

/-- The settings that come of a draft. -/
def build (d : SettingsDraft) : Except SessionError Settings := do
  let directory ← d.settledDirectory
  return {
    directory
    silent := d.silent
    sequential := d.sequential
    replySize := d.replySize
    marshal := d.marshal
    logLevel := if d.logLevel = "" then defaultLogLevel else d.logLevel
    jsonLogs := d.jsonLogs }

end SettingsDraft

end ColumnBridge
