import ColumnBridge.Proofs.Engine.Handles
import Mathlib.Data.List.DropRight

/-!
Statements that are registered and then run.

A statement is filed under its text as it stands, and looked up without the blanks around it.  So of the
registrations that differ in such blanks only, those with blanks are never found.

* `Text.trim_trim`: without the blanks around it, a text has no blanks around it;
* `MemoryEngine.registrations`, `MemoryEngine.Latest`: what some calls register, and the last of it with a
  text of some kind;
* `MemoryEngine.scripts_run`: registering is all that changes what is registered, and
  `MemoryEngine.get_scripts_run_iff`: what is found is what was registered last;
* `MemoryEngine.Answers`: a statement is answered by what was registered, with its columns in the engine;
* `MemoryEngine.query_latest`: which registration answers, and when a statement is refused.
-/

namespace ColumnBridge

/-! ### Blanks around a text -/

namespace Text

lemma trimBlanks_trimBlanks (cs : List Char) : trimBlanks (trimBlanks cs) = trimBlanks cs := by
  have hleft : (trimBlanks cs).dropWhile isBlank = trimBlanks cs := by
    rw [List.dropWhile_eq_self_iff]
    intro hpos
    have hprefix : trimBlanks cs <+: cs.dropWhile isBlank := List.rdropWhile_prefix isBlank _
    have hfirst := List.dropWhile_get_zero_not isBlank cs (hpos.trans_le hprefix.length_le)
    rwa [List.get_eq_getElem, ← hprefix.getElem hpos] at hfirst
  calc ((trimBlanks cs).dropWhile isBlank).rdropWhile isBlank
      = (trimBlanks cs).rdropWhile isBlank := by rw [hleft]
    _ = trimBlanks cs := List.rdropWhile_idempotent isBlank _

/-- Without the blanks around it, a text has no blanks around it. -/
lemma trim_trim (s : String) : trim (trim s) = trim s := by
  rw [trim, trim, String.toList_ofList, trimBlanks_trimBlanks]

end Text

namespace MemoryEngine

variable {e : MemoryEngine} {id : SessionId} {sql : String} {result : ScriptedResult}

/-! ### What is registered -/

/-- What a call registers. -/
def Call.registration : Call → Option (String × ScriptedResult)
  | .script sql result => some (sql, result)
  | _ => none

/-- What some calls register, in their order. -/
def registrations (calls : List Call) : List (String × ScriptedResult) :=
  calls.filterMap Call.registration

/-- The last registration with a text of some kind. -/
def Latest (p : String → Prop) (entries : List (String × ScriptedResult))
    (entry : String × ScriptedResult) : Prop :=
  ∃ earlier later, entries = earlier ++ entry :: later ∧ p entry.1 ∧ ∀ x ∈ later, ¬ p x.1

section Latest

variable {p : String → Prop} {entries : List (String × ScriptedResult)}
  {entry last : String × ScriptedResult}

/-- One more registration is the last one, or of another kind. -/
lemma latest_append_singleton_iff :
    Latest p (entries ++ [last]) entry
      ↔ p last.1 ∧ entry = last ∨ ¬ p last.1 ∧ Latest p entries entry := by
  constructor
  · rintro ⟨earlier, later, hentries, hkind, hlater⟩
    rcases List.eq_nil_or_concat later with rfl | ⟨later, x, rfl⟩
    · obtain ⟨rfl, hlast⟩ := List.append_inj' hentries rfl
      obtain rfl := List.head_eq_of_cons_eq hlast
      exact .inl ⟨hkind, rfl⟩
    · rw [List.concat_eq_append] at hentries hlater
      rw [← List.cons_append, ← List.append_assoc] at hentries
      obtain ⟨rfl, hlast⟩ := List.append_inj' hentries rfl
      obtain rfl := List.head_eq_of_cons_eq hlast
      refine .inr ⟨hlater last (by simp), earlier, later, rfl, hkind, fun y hy => hlater y ?_⟩
      exact List.mem_append_left _ hy
  · rintro (⟨hkind, rfl⟩ | ⟨hlast, earlier, later, rfl, hkind, hlater⟩)
    · exact ⟨entries, [], rfl, hkind, nofun⟩
    · refine ⟨earlier, later ++ [last], by simp, hkind, fun x hx => ?_⟩
      rcases List.mem_append.mp hx with hx | hx
      · exact hlater x hx
      · rwa [List.mem_singleton.mp hx]

lemma Latest.mem (h : Latest p entries entry) : entry ∈ entries := by
  obtain ⟨earlier, later, rfl, -⟩ := h
  exact List.mem_append_right _ List.mem_cons_self

lemma Latest.isOfKind (h : Latest p entries entry) : p entry.1 := by
  obtain ⟨-, -, -, hkind, -⟩ := h
  exact hkind

/-- There is a last one exactly if there is one. -/
lemma exists_latest_iff :
    (∃ entry, Latest p entries entry) ↔ ∃ entry ∈ entries, p entry.1 := by
  induction entries using List.reverseRecOn with
  | nil => exact iff_of_false (fun ⟨_, h⟩ => absurd h.mem List.not_mem_nil) (by simp)
  | append_singleton entries last ih =>
    simp only [latest_append_singleton_iff, List.mem_append, List.mem_singleton, or_and_right, exists_or,
      exists_eq_left, ← ih]
    by_cases hlast : p last.1 <;> simp [hlast]

end Latest

/-- What is found under a text is what was filed there last. -/
lemma get_foldl_insert_iff (entries : List (String × ScriptedResult)) :
    (entries.foldl (fun scripts x => scripts.insert x.1 x.2) (Ledger.empty)).get sql = some result
      ↔ Latest (· = sql) entries (sql, result) := by
  induction entries using List.reverseRecOn with
  | nil => exact iff_of_false nofun fun h => absurd h.mem List.not_mem_nil
  | append_singleton entries last ih =>
    rw [List.foldl_append, List.foldl_cons, List.foldl_nil, latest_append_singleton_iff, ← ih]
    by_cases hlast : last.1 = sql
    · subst hlast
      rw [Ledger.get_insert_self, Option.some.injEq]
      simp [Prod.ext_iff, eq_comm]
    · rw [Ledger.get_insert_of_ne _ (Ne.symm hlast)]
      simp [hlast]

/-! ### What calls do to the registrations -/

/-- What is registered is as before. -/
def SameScripts (e e' : MemoryEngine) : Prop := e'.scripts = e.scripts

instance : IsPreorder MemoryEngine SameScripts where
  refl _ := rfl
  trans _ _ _ h h' := h'.trans h

lemma keepsScripts_startup (options : StartupOptions) : Keeps SameScripts (startup options) := by
  intro e
  rw [startup]
  simp only [ends_bind, ends_get]
  split <;> rfl

lemma keepsScripts_shutdown : Keeps SameScripts shutdown := by
  intro e
  rw [shutdown]
  simp only [ends_bind, ends_get, ends_ite, ends_set, ends_throw]
  exact ⟨fun _ => rfl, fun _ => rfl⟩

lemma keepsScripts_connect : Keeps SameScripts connect := by
  intro e
  rw [connect]
  simp only [ends_bind, ends_get, ends_ite, ends_set, ends_throw, ends_pure]
  exact ⟨fun _ => rfl, fun _ => rfl⟩

lemma keepsScripts_disconnect (id : SessionId) : Keeps SameScripts (disconnect id) := by
  intro e
  rw [disconnect]
  simp only [ends_bind, ends_get, ends_ite, ends_set, ends_throw]
  exact ⟨fun _ => rfl, fun _ => rfl⟩

/-- A call that begins with a session keeps what the rest of it keeps. -/
lemma keepsScripts_session_bind {α : Type} (id : SessionId) {next : EngineSession → EngineM MemoryEngine α}
    (h : ∀ s, Keeps SameScripts (next s)) : Keeps SameScripts (session id >>= next) :=
  Keeps.bind (fun _ => ends_session id (fun _ => rfl) rfl) h

lemma keepsScripts_changeSession (id : SessionId) (f : EngineSession → EngineSession) :
    Keeps SameScripts (changeSession id f) :=
  keepsScripts_session_bind id fun _ => .modify fun _ => rfl

lemma keepsScripts_closeResult (id : SessionId) (result : Int64) :
    Keeps SameScripts (closeResult id result) :=
  keepsScripts_session_bind id fun _ => .modify fun _ => rfl

lemma keepsScripts_releasePrepared (id : SessionId) (statement : Int64) :
    Keeps SameScripts (releasePrepared id statement) :=
  keepsScripts_session_bind id fun _ => .modify fun _ => rfl

lemma keepsScripts_query (id : SessionId) (sql : String) : Keeps SameScripts (query id sql) := by
  refine keepsScripts_session_bind id fun _ e => ?_
  simp only [ends_bind, ends_get]
  split <;> rfl

lemma keepsScripts_cleanupResult (id : ResultId) : Keeps SameScripts (cleanupResult id) := by
  intro e
  rw [cleanupResult]
  simp only [ends_bind, ends_get, ends_modify]
  split <;> rfl

lemma keepsScripts_table (id : SessionId) (schema name : String) :
    Keeps SameScripts (table id schema name) := by
  refine keepsScripts_session_bind id fun _ e => ?_
  simp only [ends_bind, ends_get]
  split <;> rfl

lemma keepsScripts_append (id : SessionId) (schema name : String) (columns : List Column) :
    Keeps SameScripts (append id schema name columns) := by
  refine keepsScripts_session_bind id fun _ e => ?_
  simp only [ends_bind, ends_get]
  split
  · rfl
  · split
    · rfl
    · simp only [ends_ite, ends_throw, ends_set]
      exact ⟨fun _ => rfl, fun _ => rfl⟩

lemma keepsScripts_fixColumn (id : ColumnId) : Keeps SameScripts (fixColumn id) := by
  refine Keeps.bind (fun e => ?_) fun _ e => ?_
  · rw [countLookup]
    simp only [ends_bind, ends_get]
    split <;> rfl
  · simp only [ends_bind, ends_get]
    split <;> rfl

/-- Nothing but registering changes what is registered. -/
lemma scripts_step (e : MemoryEngine) (call : Call) :
    (e.step call).scripts = call.registration.elim e.scripts fun x => e.scripts.insert x.1 x.2 := by
  cases call with
  | script | createTable | failColumnLookup | failNextAppend | unfixColumn => rfl
  | startup options => exact (keepsScripts_startup options).snd e
  | shutdown => exact keepsScripts_shutdown.snd e
  | connect => exact keepsScripts_connect.snd e
  | disconnect id => exact (keepsScripts_disconnect id).snd e
  | autocommit id => exact (keepsScripts_session_bind id fun s => .pure s.autocommit).snd e
  | setAutocommit id enabled => exact (keepsScripts_changeSession id _).snd e
  | setReplySize id size => exact (keepsScripts_changeSession id _).snd e
  | query id sql => exact (keepsScripts_query id sql).snd e
  | cleanupResult id => exact (keepsScripts_cleanupResult id).snd e
  | closeResult id result => exact (keepsScripts_closeResult id result).snd e
  | releasePrepared id statement => exact (keepsScripts_releasePrepared id statement).snd e
  | table id schema name => exact (keepsScripts_table id schema name).snd e
  | append id schema name columns => exact (keepsScripts_append id schema name columns).snd e
  | fixColumn id => exact (keepsScripts_fixColumn id).snd e

/-- After some calls what they register is filed in its order. -/
lemma scripts_run (e : MemoryEngine) (calls : List Call) :
    (e.run calls).scripts
      = (registrations calls).foldl (fun scripts x => scripts.insert x.1 x.2) e.scripts := by
  induction calls generalizing e with
  | nil => rfl
  | cons call calls ih =>
    have hrest : (e.run (call :: calls)).scripts = _ := ih (e.step call)
    rw [hrest, scripts_step, registrations, registrations]
    cases hcall : call.registration with
    | none => rw [List.filterMap_cons_none hcall]; rfl
    | some x => rw [List.filterMap_cons_some hcall]; rfl

/-- What is found after a run is what was registered last under the text. -/
lemma get_scripts_run_iff (startupError : Option String) (calls : List Call) :
    (run { startupError } calls).scripts.get sql = some result
      ↔ Latest (· = sql) (registrations calls) (sql, result) := by
  rw [scripts_run, ← get_foldl_insert_iff]

/-- Nothing is found where nothing was registered. -/
lemma get_scripts_run_eq_none_iff (startupError : Option String) (calls : List Call) :
    (run { startupError } calls).scripts.get sql = none
      ↔ ∀ entry ∈ registrations calls, entry.1 ≠ sql := by
  have hsome : (∃ result, (run { startupError } calls).scripts.get sql = some result)
      ↔ ∃ entry ∈ registrations calls, entry.1 = sql := by
    rw [← exists_latest_iff (p := (· = sql))]
    constructor
    · rintro ⟨result, hresult⟩
      exact ⟨_, (get_scripts_run_iff startupError calls).mp hresult⟩
    · rintro ⟨⟨text, result⟩, hentry⟩
      obtain rfl : text = sql := hentry.isOfKind
      exact ⟨result, (get_scripts_run_iff startupError calls).mpr hentry⟩
  rw [← Option.not_isSome_iff_eq_none, Option.isSome_iff_exists, hsome]
  simp only [not_exists, not_and, ne_eq]

/-! ### Answers -/

/-- A description is that of a registered column, which an engine has in an output and nobody holds. -/
structure Describes (e : MemoryEngine) (r : ResultId) (d : ColumnDescription) (c : ScriptedColumn) :
    Prop where
  name_eq : d.name = c.name
  sqlType_eq : d.sqlType = c.sqlType
  digits_eq : d.digits = c.digits
  scale_eq : d.scale = c.scale
  holdsColumn : e.HoldsColumn r d.id { column := c.column }

/-- An output says what was registered, and an engine has its columns. -/
structure Shows (e : MemoryEngine) (o : QueryOutput) (result : ScriptedResult) : Prop where
  kind_eq : o.kind = result.kind
  rowCount_eq : o.rowCount = (result.columns.head?.map fun c => c.column.count).getD 0
  affectedRows_eq : o.affectedRows = result.affectedRows
  prepareId_eq : o.prepareId = result.prepareId
  columns : List.Forall₂ (e.Describes o.id) o.columns result.columns

/-- A statement is answered by what was registered. -/
def Answers (e : MemoryEngine) (id : SessionId) (sql : String) (result : ScriptedResult) : Prop :=
  ∃ output after, query id sql e = (.ok output, after) ∧ after.Shows output result

lemma describes_output {i : ℕ} {c : ScriptedColumn} {d : ColumnDescription}
    (hc : result.columns[i]? = some c) (hd : (e.output result).columns[i]? = some d) :
    (e.afterQuery result).Describes (e.output result).id d c := by
  have hheld := holdsColumn_afterQuery e hc hd
  rw [output, getElem?_describe, hc] at hd
  cases hd
  exact ⟨rfl, rfl, rfl, rfl, hheld⟩

lemma shows_output (e : MemoryEngine) (result : ScriptedResult) :
    (e.afterQuery result).Shows (e.output result) result where
  kind_eq := rfl
  rowCount_eq := rfl
  affectedRows_eq := rfl
  prepareId_eq := rfl
  columns := List.forall₂_iff_get.mpr ⟨length_describe .., fun _ hi hi' =>
    describes_output (List.getElem?_eq_getElem hi') (List.getElem?_eq_getElem hi)⟩

lemma answers_of_get {s : EngineSession} (hsession : e.sessions.get id = some s)
    (hscript : e.scripts.get (Text.trim sql) = some result) : e.Answers id sql result := by
  refine ⟨e.output result, e.afterQuery result, ?_, e.shows_output result⟩
  rw [query_of_session hsession, hscript]

/-- A statement is refused exactly if nothing is found. -/
lemma query_eq_refused_iff {s : EngineSession} (hsession : e.sessions.get id = some s) :
    query id sql e = (.error (badStatement sql), e) ↔ e.scripts.get (Text.trim sql) = none := by
  rw [query_of_session hsession]
  cases e.scripts.get (Text.trim sql) with
  | none => exact iff_of_true rfl rfl
  | some result => exact iff_of_false nofun nofun

/-- What was just registered without blanks around it answers. -/
lemma answers_script {s : EngineSession} (hsession : e.sessions.get id = some s)
    (hsql : Text.trim sql = sql) (result : ScriptedResult) : (e.script sql result).Answers id sql result := by
  have hscript : (e.script sql result).scripts.get (Text.trim sql) = some result := by
    rw [hsql]
    exact e.scripts.get_insert_self sql result
  exact answers_of_get (e := e.script sql result) hsession hscript

/-- What is registered with blanks around it is never found. -/
lemma fst_query_script {s : EngineSession} (hsession : e.sessions.get id = some s)
    (hsql : Text.trim sql ≠ sql) (result : ScriptedResult) (text : String) :
    (query id text (e.script sql result)).1 = (query id text e).1 := by
  have hne : Text.trim text ≠ sql := fun heq => hsql (heq ▸ Text.trim_trim text)
  have hscripts : (e.script sql result).scripts.get (Text.trim text) = e.scripts.get (Text.trim text) :=
    e.scripts.get_insert_of_ne hne result
  rw [query_of_session (e := e.script sql result) hsession, query_of_session hsession, hscripts]
  cases e.scripts.get (Text.trim text) <;> rfl

/-- **Which registration answers.**  After any calls on a new engine, a statement on an open session is
answered by the last registration under its text without the blanks around it, and refused if there is none.
Of the registrations that differ from it in blanks only, the last one answers if it has no blanks around
it.  A registration that has some answers no statement at all, not even the same text. -/
theorem query_latest (startupError : Option String) (calls : List Call) (id : SessionId) (sql : String)
    (hopen : (run { startupError } calls).sessions.contains id = true) :
    let e := run { startupError } calls
    (∀ entry, Latest (· = Text.trim sql) (registrations calls) entry → e.Answers id sql entry.2)
      ∧ (query id sql e = (.error (badStatement sql), e)
        ↔ ∀ entry ∈ registrations calls, entry.1 ≠ Text.trim sql)
      ∧ (∀ entry, Latest (Text.trim · = Text.trim sql) (registrations calls) entry →
        Text.trim entry.1 = entry.1 → e.Answers id sql entry.2)
      ∧ ∀ result, (Text.trim sql = sql → (e.script sql result).Answers id sql result)
        ∧ (Text.trim sql ≠ sql → ∀ text,
          (query id text (e.script sql result)).1 = (query id text e).1) := by
  intro e
  obtain ⟨s, hsession⟩ : ∃ s, e.sessions.get id = some s := Option.isSome_iff_exists.mp hopen
  have hfound : ∀ text result, e.scripts.get text = some result
      ↔ Latest (· = text) (registrations calls) (text, result) :=
    fun _ _ => get_scripts_run_iff startupError calls
  have hmissed : e.scripts.get (Text.trim sql) = none
      ↔ ∀ entry ∈ registrations calls, entry.1 ≠ Text.trim sql :=
    get_scripts_run_eq_none_iff startupError calls
  -- of the calls that lead to the engine no more counts than these
  clear_value e
  have hlatest : ∀ entry, Latest (· = Text.trim sql) (registrations calls) entry →
      e.Answers id sql entry.2 := by
    rintro ⟨text, result⟩ hentry
    obtain rfl : text = Text.trim sql := hentry.isOfKind
    exact answers_of_get hsession ((hfound _ _).mpr hentry)
  refine ⟨hlatest, ?_, ?_, fun result => ⟨fun hsql => ?_, fun hsql => ?_⟩⟩
  · rw [query_eq_refused_iff hsession, hmissed]
  · rintro entry ⟨earlier, later, hcalls, htext, hlater⟩ htrimmed
    refine hlatest entry ⟨earlier, later, hcalls, htrimmed.symm.trans htext, fun x hx hsame => ?_⟩
    have hblanks : Text.trim x.1 = Text.trim sql := by rw [hsame, Text.trim_trim]
    exact hlater x hx hblanks
  · exact answers_script hsession hsql result
  · exact fst_query_script hsession hsql result

/-- Blanks of many kinds around a statement do not hide what was registered without any, and what was
registered later with such blanks does not answer. -/
theorem query_latest_blanks :
    let first : ScriptedResult := { kind := .update, affectedRows := 1 }
    let last : ScriptedResult := { kind := .update, affectedRows := 2 }
    let calls : List Call :=
      [.script "q" first, .startup {}, .connect, .script "q" last, .script " q\n" first, .query 1 "q"]
    let e := run {} calls
    e.Answers 1 "\u00a0q\t" last
      ∧ query 1 "\u2003p" e = (.error (badStatement "\u2003p"), e)
      ∧ (query 1 " q\n" (e.script " q\n" first)).1 = (query 1 " q\n" e).1 := by
  intro first last calls e
  have hopen : (run {} calls).sessions.contains 1 = true := by decide +kernel
  have htrim : Text.trim "\u00a0q\t" = "q" := by decide +kernel
  have hlatest : Latest (· = Text.trim "\u00a0q\t") (registrations calls) ("q", last) := by
    refine ⟨[("q", first)], [(" q\n", first)], rfl, htrim.symm, fun x hx => ?_⟩
    obtain rfl := List.mem_singleton.mp hx
    rw [htrim]
    decide
  have hnone : ∀ entry ∈ registrations calls, entry.1 ≠ Text.trim "\u2003p" := by
    have hcalls : registrations calls = [("q", first), ("q", last), (" q\n", first)] := rfl
    rw [hcalls]
    decide +kernel
  exact ⟨(query_latest none calls 1 "\u00a0q\t" hopen).1 _ hlatest,
    (query_latest none calls 1 "\u2003p" hopen).2.1.mpr hnone,
    ((query_latest none calls 1 " q\n" hopen).2.2.2 first).2 (by decide +kernel) _⟩

/-- A statement that is registered with a blank in front of it is refused, though it is run with the same
text. -/
theorem query_missesRegistered :
    let result : ScriptedResult := { kind := .update, affectedRows := 3 }
    let calls : List Call := [.startup {}, .connect, .script " SELECT 1" result]
    let e := run {} calls
    Latest (Text.trim · = Text.trim " SELECT 1") (registrations calls) (" SELECT 1", result)
      ∧ query 1 " SELECT 1" e = (.error (badStatement " SELECT 1"), e) :=
  ⟨⟨[], [], rfl, rfl, nofun⟩, rfl⟩

end MemoryEngine

end ColumnBridge
