import ColumnBridge.Settings.File
import ColumnBridge.Text.Integer

/-!
Settings from environment variables.

* `Environment`: the value of each variable that is set;
* `Environment.apply`: a draft with the settings of the environment. Numbers that cannot be read are left
  out, a truth value is always one, and only the name of a policy that does not exist is a failure.
-/

namespace ColumnBridge

/-- The value of each variable that is set. -/
abbrev Environment := String → Option String

/-- Whether a text says yes. The words have no letter that some character outside ASCII has as its
lower case, so lower case is taken in ASCII. -/
def saysYes (text : String) : Bool :=
  ["true", "1", "yes", "on"].contains (text.map Char.toLower)

/-- A reply size: a number of 64 bits. -/
def readReplySize (text : String) : Option Nat :=
  (Text.readNat text).filter (· < UInt64.size)

/-- A bias of the host clock. -/
def readTimeBias (text : String) : Option Int64 :=
  (Text.readInt text).bind IntWidth.w64.ofInt?

namespace Environment

/-- A draft with the settings of the environment. -/
def apply (env : Environment) (d : SettingsDraft) : Except SessionError SettingsDraft := do
  let ordering ← policy "MONETDB_NULL_ORDERING" NullOrdering.ofName
  let rounding ← policy "MONETDB_ROUNDING_MODE" RoundingMode.ofName
  return d
    |>.change (env "MONETDB_DBDIR") (fun d path => { d with directory := some path })
    |>.change (env "MONETDB_SILENT") (fun d text => { d with silent := saysYes text })
    |>.change (env "MONETDB_SEQUENTIAL") (fun d text => { d with sequential := saysYes text })
    |>.change ((env "MONETDB_REPLY_SIZE").bind readReplySize) SettingsDraft.withReplySize
    |>.change ((env "MONETDB_TIME_BIAS_MS").bind readTimeBias) SettingsDraft.withTimeBias
    |>.change ordering SettingsDraft.withNullOrdering
    |>.change rounding SettingsDraft.withRounding
    |>.change (env "RUST_LOG") (fun d level => { d with logLevel := level })
    |>.change (env "MONETDB_JSON_LOGS") (fun d text => { d with jsonLogs := saysYes text })
where
  /-- The policy that a variable names. -/
  policy {α : Type} (name : String) (read : String → Except MarshalError α) :
      Except SessionError (Option α) :=
    readPolicy name read (env name)

end Environment

end ColumnBridge
