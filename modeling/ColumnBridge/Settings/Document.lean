import ColumnBridge.Settings.File
import ColumnBridge.Toml.Document

/-!
Settings files as TOML documents.

* `SettingsFile.ofEntries`: the settings among the entries of a document. Keys that name no setting are
  passed over, but a setting of the wrong kind and an unreadable number spoil the document;
* `SettingsFile.ofText`: the settings of a document.
-/

namespace ColumnBridge

namespace TomlValue

def asString : TomlValue → Option String
  | string s => some s
  | _ => none

def asBool : TomlValue → Option Bool
  | boolean b => some b
  | _ => none

/-- A count of 64 bits. -/
def asCount : TomlValue → Option Nat
  | integer n => if 0 ≤ n ∧ n < UInt64.size then some n.toNat else none
  | _ => none

/-- A signed integer of 64 bits. -/
def asInt64 : TomlValue → Option Int64
  | integer n => IntWidth.w64.ofInt? n
  | _ => none

/-- The given settings among some entries. All others have to be readable. -/
def keepSettings (settings : List String) (es : Entries) : Option Entries :=
  let (kept, others) := es.partition fun e => settings.contains e.1
  if haveReadable others then some kept else none

/-- The entries of a section with the given settings. An array gives all of them, in order, and nobody
looks at what comes after them; a date gives none. -/
def asSection (settings : List String) : TomlValue → Option Entries
  | table _ es => keepSettings settings es
  | array _ items => if settings.length ≤ items.length then some (settings.zip items) else none
  | datetime => some []
  | _ => none

end TomlValue

open TomlValue in
/-- The value under a key, if the key is there; none if it is there with a value of the wrong kind. -/
def optionalEntry {α : Type} (es : Entries) (key : String) (read : TomlValue → Option α) :
    Option (Option α) :=
  match findEntry es key with
  | none => some none
  | some v => (read v).map some

namespace DatabaseSection

def settings : List String := ["directory", "silent", "sequential", "reply_size"]

def ofToml (v : TomlValue) : Option DatabaseSection := do
  let es ← v.asSection settings
  return {
    directory := ← optionalEntry es "directory" TomlValue.asString
    silent := ← optionalEntry es "silent" TomlValue.asBool
    sequential := ← optionalEntry es "sequential" TomlValue.asBool
    replySize := ← optionalEntry es "reply_size" TomlValue.asCount }

end DatabaseSection

namespace MarshalSection

def settings : List String := ["time_bias_ms", "null_ordering", "rounding"]

def ofToml (v : TomlValue) : Option MarshalSection := do
  let es ← v.asSection settings
  return {
    timeBias := ← optionalEntry es "time_bias_ms" TomlValue.asInt64
    nullOrdering := ← optionalEntry es "null_ordering" TomlValue.asString
    rounding := ← optionalEntry es "rounding" TomlValue.asString }

end MarshalSection

namespace LoggingSection

def settings : List String := ["log_level", "json_logs"]

def ofToml (v : TomlValue) : Option LoggingSection := do
  let es ← v.asSection settings
  return {
    level := ← optionalEntry es "log_level" TomlValue.asString
    json := ← optionalEntry es "json_logs" TomlValue.asBool }

end LoggingSection

namespace SettingsFile

/-- The names of the sections. -/
def sections : List String := ["database", "marshal", "observability"]

/-- The settings among the entries of a document. -/
def ofEntries (es : TomlValue.Entries) : Option SettingsFile := do
  let es ← TomlValue.keepSettings sections es
  return {
    database := (← optionalEntry es "database" DatabaseSection.ofToml).getD {}
    marshal := (← optionalEntry es "marshal" MarshalSection.ofToml).getD {}
    logging := (← optionalEntry es "observability" LoggingSection.ofToml).getD {} }

/-- The settings of a document. -/
def ofText (text : String) : Option SettingsFile := do
  ofEntries (← TomlValue.ofDocument text)

end SettingsFile

end ColumnBridge
