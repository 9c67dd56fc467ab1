import ColumnBridge.Settings

/-!
What a settings file says.

* `SettingsFile`: three sections of optional settings;
* `SettingsFile.apply`: a draft with the settings of a file, which fails on the name of a policy that
  does not exist.
-/

namespace ColumnBridge

/-- The section about the database. -/
structure DatabaseSection where
  directory : Option String := none
  silent : Option Bool := none
  sequential : Option Bool := none
  replySize : Option Nat := none
  deriving DecidableEq, Repr

/-- The section about marshalling. -/
structure MarshalSection where
  timeBias : Option Int64 := none
  nullOrdering : Option String := none
  rounding : Option String := none
  deriving DecidableEq, Repr

/-- The section about logging. -/
structure LoggingSection where
  level : Option String := none
  json : Option Bool := none
  deriving DecidableEq, Repr

/-- What a settings file says; a section that is not there says nothing. -/
structure SettingsFile where
  database : DatabaseSection := {}
  marshal : MarshalSection := {}
  logging : LoggingSection := {}
  deriving DecidableEq, Repr

/-- Change a draft where there is something to change it to. -/
def SettingsDraft.change {α : Type} (d : SettingsDraft) (value : Option α)
    (f : SettingsDraft → α → SettingsDraft) : SettingsDraft :=
  match value with
  | none => d
  | some a => f d a

/-- Read the name of a policy, where there is one; a failure says under which name it was found. -/
def readPolicy {α : Type} (label : String) (read : String → Except MarshalError α) :
    Option String → Except SessionError (Option α)
  | none => .ok none
  | some text =>
    match read text with
    | .ok a => .ok (some a)
    | .error e => .error (.config s!"Invalid {label}: {e.message}")

namespace SettingsFile

/-- A draft with the settings of a file. -/
def apply (file : SettingsFile) (d : SettingsDraft) : Except SessionError SettingsDraft := do
  let ordering ← readPolicy "null_ordering" NullOrdering.ofName file.marshal.nullOrdering
  let rounding ← readPolicy "rounding" RoundingMode.ofName file.marshal.rounding
  return d
    |>.change file.database.directory (fun d path => { d with directory := some path })
    |>.change file.database.silent (fun d b => { d with silent := b })
    |>.change file.database.sequential (fun d b => { d with sequential := b })
    |>.change file.database.replySize SettingsDraft.withReplySize
    |>.change file.marshal.timeBias SettingsDraft.withTimeBias
    |>.change ordering SettingsDraft.withNullOrdering
    |>.change rounding SettingsDraft.withRounding
    |>.change file.logging.level (fun d level => { d with logLevel := level })
    |>.change file.logging.json (fun d b => { d with jsonLogs := b })

end SettingsFile

end ColumnBridge
