import ColumnBridge.Proofs.Text.Integers
import ColumnBridge.Settings.Document
import ColumnBridge.Settings.Load

/-!
Which source decides a setting.

* `Wins`: the value of a setting, of the variable, the file and the default that there are for it;
* `Settles`: the settings of an environment and a file, each of which has its own sources and no others;
* `SettingsFile.apply_cases`, `Environment.apply_cases`: both sources lie over a draft in the same way, or
  name a policy that there is not;
* `SettingsDraft.load_settles`: loading and building settings.
-/

namespace ColumnBridge

/-! ### The value that wins -/

/-- The value of a setting: that of its variable if the variable is set to a text that can be used, else
that of the file, else the default. -/
inductive Wins {α : Type} (usable : String → α → Prop) (given : Option String) (file : Option α)
    (default : α) : α → Prop
  | ofVariable {text : String} {a : α} (h : given = some text) (ha : usable text a) :
      Wins usable given file default a
  | ofFile {a : α} (h : ∀ text a, given = some text → ¬ usable text a) (hfile : file = some a) :
      Wins usable given file default a
  | ofDefault (h : ∀ text a, given = some text → ¬ usable text a) (hfile : file = none) :
      Wins usable given file default default

/-- If a text can be used as one value only, one value wins. -/
lemma wins_iff {α : Type} {usable : String → α → Prop} {read : String → Option α}
    (hread : ∀ text a, usable text a ↔ read text = some a) {given : Option String} {file : Option α}
    {default a : α} :
    Wins usable given file default a ↔ (given.bind read).getD (file.getD default) = a := by
  constructor
  · intro h
    have hunused (h : ∀ text a, given = some text → ¬ usable text a) : given.bind read = none := by
      rw [Option.bind_eq_none_iff]
      intro text htext
      exact Option.eq_none_iff_forall_ne_some.mpr fun a ha => h text a htext ((hread text a).mpr ha)
    cases h with
    | ofVariable h ha => rw [h, Option.bind_some, (hread _ _).mp ha, Option.getD_some]
    | ofFile h hfile => rw [hunused h, hfile, Option.getD_none, Option.getD_some]
    | ofDefault h hfile => rw [hunused h, hfile, Option.getD_none, Option.getD_none]
  · rintro rfl
    cases hgiven : given.bind read with
    | some a =>
      obtain ⟨text, htext, ha⟩ := Option.bind_eq_some_iff.mp hgiven
      exact .ofVariable htext ((hread text a).mpr ha)
    | none =>
      have hunused : ∀ text a, given = some text → ¬ usable text a := fun text a htext ha => by
        rw [htext, Option.bind_some, (hread text a).mp ha] at hgiven
        cases hgiven
      cases hfile : file with
      | some a => exact .ofFile hunused rfl
      | none => exact .ofDefault hunused rfl

/-- Where every text can be used, that of the variable wins. -/
lemma wins_iff_of_total {α : Type} {usable : String → α → Prop} {f : String → α}
    (hf : ∀ text a, usable text a ↔ f text = a) {given : Option String} {file : Option α} {default a : α} :
    Wins usable given file default a ↔ (given.map f).getD (file.getD default) = a := by
  rw [Option.map_eq_bind]
  refine wins_iff fun text a => (hf text a).trans ?_
  rw [Function.comp_apply, Option.some.injEq]

/-! ### Texts that can be used -/

/-- A truth value, which every text is. -/
def IsFlag (text : String) (flag : Bool) : Prop :=
  flag = true ↔ ∃ word ∈ ["true", "1", "yes", "on"], Text.SameLetters text.toList word.toList

/-- A reply size: a number of 64 bits, and not zero. -/
def IsReplySize (text : String) (size : ℕ) : Prop :=
  Text.Writes false text.toList size ∧ size < 2 ^ 64 ∧ size ≠ 0

/-- A bias of the host clock: an integer of 64 bits. -/
def IsTimeBias (text : String) (bias : Int64) : Prop :=
  ∃ negative, Text.Writes negative text.toList bias.toInt

lemma isFlag_iff (text : String) (flag : Bool) : IsFlag text flag ↔ saysYes text = flag := by
  rw [IsFlag, ← saysYes_iff, Bool.coe_iff_coe, eq_comm]

lemma isReplySize_iff (text : String) (size : ℕ) :
    IsReplySize text size ↔ (readReplySize text).filter (· ≠ 0) = some size := by
  simp [IsReplySize, readReplySize, Option.filter_eq_some_iff, Text.readNat_eq_some_iff,
    UInt64.size]

lemma isTimeBias_iff (text : String) (bias : Int64) :
    IsTimeBias text bias ↔ readTimeBias text = some bias := by
  rw [IsTimeBias, readTimeBias, ← Text.readInt_eq_some_iff, Option.bind_eq_some_iff]
  constructor
  · exact fun h => ⟨_, h, IntWidth.ofInt?_eq_some.mpr rfl⟩
  · rintro ⟨n, hn, hbias⟩
    rwa [← show bias.toInt = n from IntWidth.ofInt?_eq_some.mp hbias] at hn

/-! ### Policies -/

section Policies

variable {α : Type} {read : String → Except MarshalError α} {name : Option String}

/-- A policy is named that there is not. -/
def Unknown (read : String → Except MarshalError α) (name : Option String) : Prop :=
  ∃ text failure, name = some text ∧ read text = .error failure

/-- The policy that is named, if one is and there is such a one. -/
def policyNamed (read : String → Except MarshalError α) (name : Option String) : Option α :=
  name.bind fun text => (read text).toOption

lemma policyNamed_iff (text : String) (a : α) : read text = .ok a ↔ (read text).toOption = some a := by
  cases read text <;> simp [Except.toOption]

lemma not_unknown_none : ¬ Unknown read none := by
  rintro ⟨text, failure, hname, -⟩
  cases hname

lemma not_unknown_of_ok {text : String} {a : α} (h : read text = .ok a) : ¬ Unknown read (some text) := by
  rintro ⟨text, failure, ⟨⟩, herror⟩
  cases h.symm.trans herror

lemma readPolicy_cases (label : String) (read : String → Except MarshalError α) (name : Option String) :
    (Unknown read name ∧ ∃ message, readPolicy label read name = .error (.config message))
      ∨ (¬ Unknown read name ∧ readPolicy label read name = .ok (policyNamed read name)) := by
  cases name with
  | none => exact .inr ⟨not_unknown_none, rfl⟩
  | some text =>
    cases hread : read text with
    | error failure => exact .inl ⟨⟨text, failure, rfl, hread⟩, _, by rw [readPolicy, hread]⟩
    | ok a =>
      refine .inr ⟨not_unknown_of_ok hread, ?_⟩
      rw [readPolicy, policyNamed, Option.bind_some, hread]
      rfl

/-- Two policies are read before anything is done with them. -/
lemma readPolicies_cases {β γ : Type} (label label' : String) (read : String → Except MarshalError α)
    (read' : String → Except MarshalError β) (name name' : Option String)
    (finish : Option α → Option β → γ) :
    let done : Except SessionError γ := do
      let a ← readPolicy label read name
      let b ← readPolicy label' read' name'
      return finish a b
    ((Unknown read name ∨ Unknown read' name') ∧ ∃ message, done = .error (.config message))
      ∨ (¬ (Unknown read name ∨ Unknown read' name')
        ∧ done = .ok (finish (policyNamed read name) (policyNamed read' name'))) := by
  rcases readPolicy_cases label read name with ⟨hname, message, hfail⟩ | ⟨hname, hok⟩
  · exact .inl ⟨.inl hname, message, by rw [hfail]; rfl⟩
  · rcases readPolicy_cases label' read' name' with ⟨hname', message, hfail⟩ | ⟨hname', hok'⟩
    · exact .inl ⟨.inr hname', message, by rw [hok, hfail]; rfl⟩
    · exact .inr ⟨not_or.mpr ⟨hname, hname'⟩, by rw [hok, hok']; rfl⟩

end Policies

/-! ### Sources -/

/-- What a source says about the settings, as far as it can be used. -/
structure Source where
  directory : Option String
  silent : Option Bool
  sequential : Option Bool
  replySize : Option ℕ
  timeBias : Option Int64
  nullOrdering : Option NullOrdering
  rounding : Option RoundingMode
  logLevel : Option String
  jsonLogs : Option Bool

/-- A draft with what a source says over it. -/
def Source.over (source : Source) (d : SettingsDraft) : SettingsDraft where
  directory := source.directory.or d.directory
  silent := source.silent.getD d.silent
  sequential := source.sequential.getD d.sequential
  replySize := source.replySize.getD d.replySize
  marshal :=
    { timeBias := source.timeBias.getD d.marshal.timeBias
      nullOrdering := source.nullOrdering.getD d.marshal.nullOrdering
      rounding := source.rounding.getD d.marshal.rounding }
  logLevel := source.logLevel.getD d.logLevel
  jsonLogs := source.jsonLogs.getD d.jsonLogs

/-- What a file says. -/
def SettingsFile.source (file : SettingsFile) : Source where
  directory := file.database.directory
  silent := file.database.silent
  sequential := file.database.sequential
  replySize := file.database.replySize.filter (· ≠ 0)
  timeBias := file.marshal.timeBias
  nullOrdering := policyNamed NullOrdering.ofName file.marshal.nullOrdering
  rounding := policyNamed RoundingMode.ofName file.marshal.rounding
  logLevel := file.logging.level
  jsonLogs := file.logging.json

/-- A file names a policy that there is not. -/
def SettingsFile.NamesUnknown (file : SettingsFile) : Prop :=
  Unknown NullOrdering.ofName file.marshal.nullOrdering ∨ Unknown RoundingMode.ofName file.marshal.rounding

/-- What an environment says. -/
def Environment.source (env : Environment) : Source where
  directory := env "MONETDB_DBDIR"
  silent := (env "MONETDB_SILENT").map saysYes
  sequential := (env "MONETDB_SEQUENTIAL").map saysYes
  replySize := ((env "MONETDB_REPLY_SIZE").bind readReplySize).filter (· ≠ 0)
  timeBias := (env "MONETDB_TIME_BIAS_MS").bind readTimeBias
  nullOrdering := policyNamed NullOrdering.ofName (env "MONETDB_NULL_ORDERING")
  rounding := policyNamed RoundingMode.ofName (env "MONETDB_ROUNDING_MODE")
  logLevel := env "RUST_LOG"
  jsonLogs := (env "MONETDB_JSON_LOGS").map saysYes

/-- An environment names a policy that there is not. -/
def Environment.NamesUnknown (env : Environment) : Prop :=
  Unknown NullOrdering.ofName (env "MONETDB_NULL_ORDERING")
    ∨ Unknown RoundingMode.ofName (env "MONETDB_ROUNDING_MODE")

namespace SettingsDraft

lemma change_map {α β : Type} (d : SettingsDraft) (value : Option α) (g : α → β)
    (f : SettingsDraft → β → SettingsDraft) :
    d.change (value.map g) f = d.change value fun d a => f d (g a) := by
  cases value <;> rfl

/-- A setting that is not given is set to what it is. -/
lemma change_eq_set {α : Type} (d : SettingsDraft) (value : Option α)
    (set : SettingsDraft → α → SettingsDraft) (get : SettingsDraft → α) (hset : ∀ d, set d (get d) = d) :
    d.change value set = set d (value.getD (get d)) := by
  cases value with
  | none => exact (hset d).symm
  | some a => rfl

/-- Only a reply size that is not zero changes a draft. -/
lemma change_withReplySize (d : SettingsDraft) (size : Option ℕ) :
    d.change size withReplySize = { d with replySize := (size.filter (· ≠ 0)).getD d.replySize } := by
  cases size with
  | none => rfl
  | some n =>
    by_cases hn : n = 0 <;> simp [change, withReplySize, hn, Option.filter]

/-- Each change sets one setting and leaves the others. -/
lemma changes_eq (d : SettingsDraft) (directory level : Option String)
    (silent sequential json : Option Bool) (size : Option ℕ) (bias : Option Int64)
    (ordering : Option NullOrdering) (mode : Option RoundingMode) :
    (d
      |>.change directory (fun d path => { d with directory := some path })
      |>.change silent (fun d b => { d with silent := b })
      |>.change sequential (fun d b => { d with sequential := b })
      |>.change size withReplySize
      |>.change bias withTimeBias
      |>.change ordering withNullOrdering
      |>.change mode withRounding
      |>.change level (fun d level => { d with logLevel := level })
      |>.change json (fun d b => { d with jsonLogs := b }))
      = Source.over ⟨directory, silent, sequential, size.filter (· ≠ 0), bias, ordering, mode, level, json⟩
          d := by
  have hdirectory : d.change directory (fun d path => { d with directory := some path })
      = { d with directory := directory.or d.directory } := by
    cases directory <;> rfl
  rw [change_eq_set _ json (fun d b => { d with jsonLogs := b }) jsonLogs fun _ => rfl,
    change_eq_set _ level (fun d level => { d with logLevel := level }) logLevel fun _ => rfl,
    change_eq_set _ mode withRounding (·.marshal.rounding) fun _ => rfl,
    change_eq_set _ ordering withNullOrdering (·.marshal.nullOrdering) fun _ => rfl,
    change_eq_set _ bias withTimeBias (·.marshal.timeBias) fun _ => rfl, change_withReplySize,
    change_eq_set _ sequential (fun d b => { d with sequential := b }) SettingsDraft.sequential fun _ => rfl,
    change_eq_set _ silent (fun d b => { d with silent := b }) SettingsDraft.silent fun _ => rfl,
    hdirectory]
  rfl

end SettingsDraft

/-! ### Sources over a draft -/

/-- A file names a policy that there is not, or lies over the draft. -/
lemma SettingsFile.apply_cases (file : SettingsFile) (d : SettingsDraft) :
    (file.NamesUnknown ∧ ∃ message, file.apply d = .error (.config message))
      ∨ (¬ file.NamesUnknown ∧ file.apply d = .ok (file.source.over d)) := by
  rw [SettingsFile.apply, SettingsFile.NamesUnknown, SettingsFile.source, ← SettingsDraft.changes_eq]
  exact readPolicies_cases "null_ordering" "rounding" NullOrdering.ofName RoundingMode.ofName _ _ _

/-- An environment names a policy that there is not, or lies over the draft. -/
lemma Environment.apply_cases (env : Environment) (d : SettingsDraft) :
    (env.NamesUnknown ∧ ∃ message, env.apply d = .error (.config message))
      ∨ (¬ env.NamesUnknown ∧ env.apply d = .ok (env.source.over d)) := by
  rw [Environment.apply, Environment.NamesUnknown, Environment.source, ← SettingsDraft.changes_eq]
  simp only [SettingsDraft.change_map]
  exact readPolicies_cases "MONETDB_NULL_ORDERING" "MONETDB_ROUNDING_MODE" NullOrdering.ofName
    RoundingMode.ofName _ _ _

/-! ### The settings of two sources -/

/-- The directory that decides: that of the variable, else that of the file, else none. -/
def DirectoryWins (env : Environment) (file : SettingsFile) (directory : Option String) : Prop :=
  Wins (fun text a => a = some text) (env "MONETDB_DBDIR") (file.database.directory.map some) none directory

/-- An environment and a file make no settings: one of them names a policy that there is not, or the
directory that decides is empty. -/
inductive Spoilt (env : Environment) (file : SettingsFile) : Prop
  | file (h : file.NamesUnknown)
  | environment (h : env.NamesUnknown)
  | directory (h : DirectoryWins env file (some ""))

/-- The settings of an environment and a file.  Each has its own variable, its own entry in the file and its
own default. -/
structure Settles (env : Environment) (file : SettingsFile) (s : Settings) : Prop where
  directory : ∃ winner, DirectoryWins env file winner
    ∧ s.directory = if winner = some ":memory:" then none else winner
  silent : Wins IsFlag (env "MONETDB_SILENT") file.database.silent true s.silent
  sequential : Wins IsFlag (env "MONETDB_SEQUENTIAL") file.database.sequential false s.sequential
  replySize : Wins IsReplySize (env "MONETDB_REPLY_SIZE") (file.database.replySize.filter (· ≠ 0)) 100
    s.replySize
  timeBias : Wins IsTimeBias (env "MONETDB_TIME_BIAS_MS") file.marshal.timeBias 3600000 s.marshal.timeBias
  nullOrdering : Wins (fun text a => NullOrdering.ofName text = .ok a) (env "MONETDB_NULL_ORDERING")
    (policyNamed NullOrdering.ofName file.marshal.nullOrdering) .first s.marshal.nullOrdering
  rounding : Wins (fun text a => RoundingMode.ofName text = .ok a) (env "MONETDB_ROUNDING_MODE")
    (policyNamed RoundingMode.ofName file.marshal.rounding) .halfUp s.marshal.rounding
  logLevel : ∃ winner, Wins (fun text a => a = text) (env "RUST_LOG") file.logging.level "info" winner
    ∧ s.logLevel = if winner = "" then "info" else winner
  jsonLogs : Wins IsFlag (env "MONETDB_JSON_LOGS") file.logging.json false s.jsonLogs

namespace SettingsDraft

/-- The settings of a draft with a directory that is not empty. -/
def settings (d : SettingsDraft) : Settings where
  directory := if d.directory = some inMemory then none else d.directory
  silent := d.silent
  sequential := d.sequential
  replySize := d.replySize
  marshal := d.marshal
  logLevel := if d.logLevel = "" then defaultLogLevel else d.logLevel
  jsonLogs := d.jsonLogs

lemma settledDirectory_eq (d : SettingsDraft) :
    d.settledDirectory = if d.directory = some "" then .error (.config "database directory must not be empty")
      else .ok d.settings.directory := by
  rw [settledDirectory, settings]
  cases d.directory with
  | none => rfl
  | some path =>
    by_cases hmemory : path = inMemory
    · rw [hmemory]
      rfl
    · simp [hmemory]

lemma build_cases (d : SettingsDraft) :
    (d.directory = some "" ∧ ∃ message, d.build = .error (.config message))
      ∨ (d.directory ≠ some "" ∧ d.build = .ok d.settings) := by
  by_cases hempty : d.directory = some ""
  · exact .inl ⟨hempty, _, by rw [build, settledDirectory_eq, if_pos hempty]; rfl⟩
  · exact .inr ⟨hempty, by rw [build, settledDirectory_eq, if_neg hempty]; rfl⟩

/-- The directory that decides is that of the draft. -/
lemma directoryWins_iff (env : Environment) (file : SettingsFile) (directory : Option String) :
    DirectoryWins env file directory ↔ (env.source.over (file.source.over {})).directory = directory := by
  have hdraft : (env.source.over (file.source.over {})).directory
      = ((env "MONETDB_DBDIR").map some).getD ((file.database.directory.map some).getD none) := by
    rw [Source.over, Source.over, Environment.source, SettingsFile.source]
    cases env "MONETDB_DBDIR" <;> cases file.database.directory <;> rfl
  rw [DirectoryWins, wins_iff_of_total fun text a => eq_comm, hdraft]

/-- What an environment says over what a file says decides every setting. -/
lemma settles_over (env : Environment) (file : SettingsFile) :
    Settles env file (env.source.over (file.source.over {})).settings where
  directory := ⟨_, (directoryWins_iff ..).mpr rfl, rfl⟩
  silent := (wins_iff_of_total isFlag_iff).mpr rfl
  sequential := (wins_iff_of_total isFlag_iff).mpr rfl
  replySize := by
    have hfilter : ((env "MONETDB_REPLY_SIZE").bind readReplySize).filter (· ≠ 0)
        = (env "MONETDB_REPLY_SIZE").bind fun text => (readReplySize text).filter (· ≠ 0) := by
      cases env "MONETDB_REPLY_SIZE" <;> rfl
    rw [settings, Source.over, Environment.source, hfilter]
    exact (wins_iff isReplySize_iff).mpr rfl
  timeBias := (wins_iff isTimeBias_iff).mpr rfl
  nullOrdering := (wins_iff policyNamed_iff).mpr rfl
  rounding := (wins_iff policyNamed_iff).mpr rfl
  logLevel := by
    refine ⟨_, (wins_iff_of_total (f := id) fun text level => eq_comm).mpr rfl, ?_⟩
    rw [settings, Source.over, Source.over, Environment.source, SettingsFile.source]
    cases env "RUST_LOG" <;> cases file.logging.level <;> rfl
  jsonLogs := (wins_iff_of_total isFlag_iff).mpr rfl

/-- **Precedence.**  The settings of a file and an environment over it.  There are none if one of the two
names a policy that there is not, whatever the other one says, or if the directory that decides is empty.
Else each setting has the value of its variable if that is set and can be used, else that of the file if
that can be used, else its default. -/
theorem load_settles (reader : SettingsReader) (tree : FileTree) (env : Environment) (path text : String)
    (file : SettingsFile) (hread : tree.read path = some text.toByteArray) (hfile : reader text = some file) :
    (Spoilt env file → ∃ message, ofFile reader tree env path >>= build = .error (.config message))
      ∧ (¬ Spoilt env file →
          ∃ s, ofFile reader tree env path >>= build = .ok s ∧ Settles env file s) := by
  have hload : ofFile reader tree env path = file.apply {} >>= env.apply := by
    rw [ofFile, withFile]
    simp only [hread, Text.Utf8.decode_toByteArray, hfile]
  rw [hload]
  rcases file.apply_cases {} with ⟨hfileUnknown, message, hfail⟩ | ⟨hfileKnown, hok⟩
  · refine ⟨fun _ => ⟨message, by rw [hfail]; rfl⟩, fun h => absurd (.file hfileUnknown) h⟩
  · rcases env.apply_cases (file.source.over {}) with ⟨henvUnknown, message, hfail⟩ | ⟨henvKnown, hok'⟩
    · refine ⟨fun _ => ⟨message, by rw [hok]; exact congrArg (· >>= build) hfail⟩,
        fun h => absurd (.environment henvUnknown) h⟩
    · have hbuild : (file.apply {} >>= env.apply) >>= build
          = (env.source.over (file.source.over {})).build := by
        rw [hok]
        exact congrArg (· >>= build) hok'
      rw [hbuild]
      rcases build_cases (env.source.over (file.source.over {})) with
        ⟨hempty, message, hfail⟩ | ⟨hsome, hok⟩
      · exact ⟨fun _ => ⟨message, hfail⟩,
          fun h => absurd (.directory ((directoryWins_iff ..).mpr hempty)) h⟩
      · refine ⟨fun h => ?_, fun _ => ⟨_, hok, settles_over env file⟩⟩
        cases h with
        | file h => exact absurd h hfileKnown
        | environment h => exact absurd h henvKnown
        | directory h => exact absurd ((directoryWins_iff ..).mp h) hsome

/-- A bad reply size of the environment leaves that of the file, and a good bias wins over it.  A bad
rounding mode of the file is refused under a good one of the environment. -/
theorem load_settles_mixed :
    let text := "[database]\nreply_size = 5\n[marshal]\ntime_bias_ms = 1\n"
    let bad := "[marshal]\nrounding = \"nearest\"\n"
    let tree : FileTree := ⟨[(["c"], text.toByteArray), (["d"], bad.toByteArray)]⟩
    let env : Environment := fun name => List.lookup name
      [("MONETDB_DBDIR", ":memory:"), ("MONETDB_REPLY_SIZE", "0"), ("MONETDB_TIME_BIAS_MS", "+7"),
        ("MONETDB_ROUNDING_MODE", "up")]
    (∃ s, ofFile SettingsFile.ofText tree env "c" >>= build = .ok s ∧ s.isInMemory = true
        ∧ s.replySize = 5 ∧ s.marshal.timeBias = 7)
      ∧ ∃ message, ofFile SettingsFile.ofText tree env "d" >>= build = .error (.config message) := by
  intro text bad tree env
  -- the recursion over the characters is opened once for the name and once for its end
  have hsplit : "c".splitOn "/" = ["c"] ∧ "d".splitOn "/" = ["d"] := by
    constructor
    all_goals
      rw [String.splitOn, if_neg (by decide), String.splitOnAux, if_neg (by decide), if_neg (by decide),
        String.splitOnAux, if_pos (by decide)]
      rfl
  have hread : tree.read "c" = some text.toByteArray := by
    rw [FileTree.read, hsplit.1, if_neg (by simp)]
    rfl
  have hbad : tree.read "d" = some bad.toByteArray := by
    rw [FileTree.read, hsplit.2, if_neg (by simp)]
    rfl
  let file : SettingsFile := { database := { replySize := some 5 }, marshal := { timeBias := some 1 } }
  have hfine : ¬ Spoilt env file := by
    rintro (h | h | h)
    · exact h.elim not_unknown_none not_unknown_none
    · exact h.elim not_unknown_none (not_unknown_of_ok (a := .up) rfl)
    · exact absurd ((directoryWins_iff ..).mp h) (by decide +kernel)
  have hspoilt : Spoilt env { marshal := { rounding := some "nearest" } } :=
    .file (.inr ⟨"nearest", _, rfl, rfl⟩)
  obtain ⟨s, hs, hsettles⟩ :=
    (load_settles SettingsFile.ofText tree env "c" text file hread (by decide +kernel)).2 hfine
  refine ⟨⟨s, hs, ?_, ?_, ?_⟩,
    (load_settles SettingsFile.ofText tree env "d" bad _ hbad (by decide +kernel)).1 hspoilt⟩
  · obtain ⟨winner, hwins, hdirectory⟩ := hsettles.directory
    obtain rfl := (directoryWins_iff env file winner).mp hwins
    rw [Settings.isInMemory, hdirectory]
    rfl
  · exact ((wins_iff isReplySize_iff).mp hsettles.replySize).symm.trans (by decide +kernel)
  · exact ((wins_iff isTimeBias_iff).mp hsettles.timeBias).symm.trans (by decide +kernel)

end SettingsDraft

end ColumnBridge
