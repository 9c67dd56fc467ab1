import ColumnBridge.Proofs.Flags.Exact
import ColumnBridge.Proofs.Session.Lifecycle
import ColumnBridge.Proofs.Session.Statements

/-!
Adding rows to a stored table, all of them or none.

* `AppendArray.exists_build_iff`: of the arrays that fit a column, those are built whose rows convert, and
  `AppendArray.exists_ofArray_of_fits`: a flat array that fits is never refused;
* `Table.buildColumns_eq_ok_iff`: all columns are built, each from its own array, or none is;
* `Table.Accepts`: what the connection, the table and the arrays have to be like;
* `Table.append_allOrNothing`: rows are added exactly if the table accepts them, as one batch, and else
  all tables stay as they are.
-/

namespace ColumnBridge

open MemoryEngine

/-! ### Columns of arrays -/

/-- Flat arrays of a class are for the columns of one type. -/
lemma Element.type_eq_of_hostKind {e : Element} {type : LogicalType}
    (h : e.hostKind = type.hostKind) : type = e.type := by
  cases e <;> cases type <;> cases h <;> rfl

namespace AppendArray

variable {array : AppendArray} {type : LogicalType} {options : MarshalOptions} {c : Column}

/-- Every row converts: the elements of a flat array do, and objects that the host can read and the type
can store. -/
def Converts (type : LogicalType) (options : MarshalOptions) : AppendArray → Prop
  | flat _ _ => True
  | objects _ rows => ∀ row ∈ rows, ∃ cell, (row >>= type.encode options) = .ok cell

/-- A flat array that fits is never refused. -/
lemma exists_ofArray_of_fits {e : Element} {values : Array e.Carrier}
    (h : (flat e values).fits type.hostKind = true) :
    ∃ c, Column.ofArray e type options values = .ok c := by
  obtain rfl := Element.type_eq_of_hostKind (of_decide_eq_true h)
  rw [Column.ofArray, if_pos rfl]
  exact ⟨_, rfl⟩

/-- Of the arrays that fit, those are built whose rows convert. -/
lemma exists_build_iff (h : array.fits type.hostKind = true) :
    (∃ c, array.build type options = .ok c) ↔ array.Converts type options := by
  cases array with
  | flat e values => exact iff_of_true (exists_ofArray_of_fits h) trivial
  | objects cls rows => exact Column.exists_build_iff

/-- The column of an array has its type and a row for each of its rows. -/
lemma type_count_of_build (h : array.build type options = .ok c) :
    c.type = type ∧ c.count = array.length := by
  cases array with
  | flat e values =>
    rw [build, Column.ofArray] at h
    split at h
    · next htype =>
      cases h
      refine ⟨htype.symm, (Column.count_ofCells _ _).trans ?_⟩
      rw [length, ← Array.length_toList, ← List.length_map (f := e.save)]
      cases e <;> rfl
    · cases h
  | objects cls rows =>
    obtain ⟨cells, hcells, rfl⟩ := Column.build_eq_ok_iff.mp h
    exact ⟨rfl, by rw [Column.count_ofCells, ← hcells.length_eq, length]⟩

end AppendArray

/-! ### What a table accepts -/

namespace Table

/-- The rows of the first array, which all others have to have too. -/
def rowsOf (arrays : List AppendArray) : ℕ := (arrays.head?.map AppendArray.length).getD 0

/-- An array suits a column of a table: the type of the column is known, the array is of its class and
every row converts. -/
def Suits (options : MarshalOptions) (column : TableColumn) (array : AppendArray) : Prop :=
  ∃ type, column.logicalType = .ok type ∧ array.fits type.hostKind = true ∧ array.Converts type options

/-- A table accepts arrays: its connection is live and the table is stored, there is one array for each
column, all are as long as the first and suit their columns, and no refusal is pending. -/
structure Accepts (t : Table) (arrays : List AppendArray) (w : Embedding MemoryEngine)
    (stored : MemoryTable) : Prop where
  live : t.connection.IsLive w
  get_eq : w.engine.tables.get (t.schema, t.name) = some stored
  length_eq : arrays.length = stored.columns.length
  rows_eq : ∀ array ∈ arrays, array.length = rowsOf arrays
  suits : ∀ p ∈ stored.columns.zip arrays, Suits t.connection.options p.1 p.2
  ready : w.engine.appendError = none

/-- A column is built from an array for a column of a table: it is of the type of that column and has
the given number of rows. -/
def BuiltFor (options : MarshalOptions) (rows : ℕ) (p : TableColumn × AppendArray) (c : Column) : Prop :=
  ∃ type, p.1.logicalType = .ok type ∧ p.2.fits type.hostKind = true
    ∧ p.2.build type options = .ok c ∧ c.type = type ∧ c.count = rows

/-! ### Building all columns -/

section Build

variable {options : MarshalOptions} {rows : ℕ} {columns : List TableColumn} {arrays : List AppendArray}

/-- A column that is built is built for its column of the table, whatever its position. -/
lemma buildColumn_eq_ok_iff {position : ℕ} {column : TableColumn} {array : AppendArray} {c : Column} :
    buildColumn options rows position column array = .ok c
      ↔ BuiltFor options rows (column, array) c := by
  rw [buildColumn, BuiltFor]
  split_ifs with hlength
  · refine iff_of_false nofun ?_
    rintro ⟨type, -, -, hbuild, -, hcount⟩
    exact hlength ((AppendArray.type_count_of_build hbuild).2.symm.trans hcount)
  · simp only [bind_eq_ok]
    refine exists_congr fun type => and_congr_right fun _ => ?_
    split_ifs with hfits
    · exact iff_of_false nofun fun h => by simp [h.1] at hfits
    · rw [Bool.not_eq_true', Bool.not_eq_false] at hfits
      rw [and_iff_right hfits, liftMarshal, mapError_eq_ok, iff_self_and]
      intro hbuild
      obtain ⟨htype, hcount⟩ := AppendArray.type_count_of_build hbuild
      exact ⟨htype, hcount.trans (not_not.mp hlength)⟩

/-- A column can be built for a column of a table exactly if the array has the right length and suits. -/
lemma exists_builtFor_iff {p : TableColumn × AppendArray} :
    (∃ c, BuiltFor options rows p c) ↔ p.2.length = rows ∧ Suits options p.1 p.2 := by
  constructor
  · rintro ⟨c, type, htype, hfits, hbuild, -, hcount⟩
    refine ⟨(AppendArray.type_count_of_build hbuild).2.symm.trans hcount, type, htype, hfits, ?_⟩
    exact (AppendArray.exists_build_iff hfits).mp ⟨c, hbuild⟩
  · rintro ⟨hlength, type, htype, hfits, hconverts⟩
    obtain ⟨c, hbuild⟩ := (AppendArray.exists_build_iff hfits).mpr hconverts
    obtain ⟨hc, hcount⟩ := AppendArray.type_count_of_build hbuild
    exact ⟨c, type, htype, hfits, hbuild, hc, hcount.trans hlength⟩

/-- All columns are built, each for its own column of the table. -/
lemma buildColumns_eq_ok_iff {batch : List Column} :
    buildColumns options rows columns arrays = .ok batch
      ↔ List.Forall₂ (BuiltFor options rows) (columns.zip arrays) batch := by
  rw [buildColumns, mapM_eq_ok_iff]
  simp only [buildColumn_eq_ok_iff]
  conv_rhs => rw [← List.zipIdx_map_fst 0 (columns.zip arrays), List.forall₂_map_left_iff]

/-- They are built exactly if every array is of the right length and suits its column. -/
lemma exists_buildColumns_iff :
    (∃ batch, buildColumns options rows columns arrays = .ok batch)
      ↔ ∀ p ∈ columns.zip arrays, p.2.length = rows ∧ Suits options p.1 p.2 := by
  rw [buildColumns, exists_mapM_iff]
  simp only [buildColumn_eq_ok_iff, exists_builtFor_iff]
  conv_rhs => rw [← List.zipIdx_map_fst 0 (columns.zip arrays), List.forall_mem_map]

end Build

end Table

/-! ### The calls on the engine -/

namespace MemoryEngine

/-- An engine with one more batch of rows in a table. -/
def addBatch (e : MemoryEngine) (schema name : String) (batch : List Column) : MemoryEngine :=
  { e with
    tables := e.tables.modify (schema, name) fun t => { t with batches := t.batches ++ [batch] } }

variable {e : MemoryEngine}

/-- The rows of a batch are those of its first column. -/
def batchRows (batch : List Column) : ℕ := (batch.head?.map Column.count).getD 0

lemma get_addBatch (schema name : String) (batch : List Column) (key : String × String) :
    (e.addBatch schema name batch).tables.get key
      = if key = (schema, name) then (e.tables.get (schema, name)).map fun t =>
          { t with batches := t.batches ++ [batch] }
        else e.tables.get key :=
  Ledger.get_modify ..

/-- A stored table has the rows of one more batch. -/
lemma appendedRows_addBatch {schema name : String} {stored : MemoryTable} (batch : List Column)
    (h : e.tables.get (schema, name) = some stored) :
    (e.addBatch schema name batch).appendedRows schema name
      = e.appendedRows schema name + batchRows batch := by
  rw [appendedRows, appended, get_addBatch, if_pos rfl, appendedRows, appended, h]
  exact List.foldl_concat ..

variable (id : SessionId) (schema name : String)

/-- A table is found exactly if there is a session to look for it, and nothing changes. -/
lemma ends_table :
    Ends (table id schema name) e
      (fun columns u => u = e ∧ e.sessions.contains id = true
        ∧ ∃ stored, e.tables.get (schema, name) = some stored ∧ stored.columns = columns)
      fun u => u = e ∧ ¬ (e.sessions.contains id = true
        ∧ ∃ stored, e.tables.get (schema, name) = some stored) := by
  rw [table, session]
  simp only [ends_bind, ends_get, Ledger.contains]
  split
  · next s hs =>
    rw [ends_pure, hs]
    split
    · next stored hstored => exact ⟨rfl, rfl, stored, hstored, rfl⟩
    · next hnone =>
      refine ⟨rfl, ?_⟩
      rintro ⟨-, stored, hstored⟩
      cases hnone.symm.trans hstored
  · next hs =>
    refine ⟨rfl, ?_⟩
    rintro ⟨hlive, -⟩
    rw [hs] at hlive
    cases hlive

variable {id schema name}

/-- A batch is added to a table that has as many columns, unless a refusal is pending, which is used
up. -/
lemma ends_append {batch : List Column} {stored : MemoryTable} (hlive : e.sessions.contains id = true)
    (hstored : e.tables.get (schema, name) = some stored)
    (hlength : batch.length = stored.columns.length) :
    Ends (append id schema name batch) e
      (fun _ u => e.appendError = none ∧ u = e.addBatch schema name batch)
      fun u => e.appendError ≠ none ∧ u = { e with appendError := none } := by
  obtain ⟨s, hs⟩ := Option.isSome_iff_exists.mp hlive
  rw [append, session]
  simp only [ends_bind, ends_get, hs, ends_pure]
  split
  · next message hmessage =>
    rw [hmessage]
    exact ⟨Option.some_ne_none message, rfl⟩
  · next hready =>
    simp only [hstored, hlength, ne_eq, not_true_eq_false, if_false, ends_set]
    exact ⟨hready, rfl⟩

end MemoryEngine

/-! ### Adding rows -/

/-- A step on the session of a connection ends as the engine does, or fails where there is none. -/
lemma Connection.ends_withSession {α : Type} (c : Connection) {call : SessionId → EngineM MemoryEngine α}
    {w : Embedding MemoryEngine} {done : α → Embedding MemoryEngine → Prop}
    {failed : Embedding MemoryEngine → Prop}
    (hcall : ∀ id, w.session c.link = some id → Ends (SessionM.onEngine (call id)) w done failed)
    (hclosed : w.session c.link = none → failed w) : Ends (c.withSession call) w done failed := by
  rw [withSession, ends_bind, ends_get]
  split
  · next id hid => exact hcall id hid
  · next hid => exact hclosed hid

namespace Table

/-- The columns of a table are found exactly if its connection is live and it is stored. -/
lemma ends_columns (t : Table) (w : Embedding MemoryEngine) :
    Ends t.columns w
      (fun columns u => u = w ∧ t.connection.IsLive w
        ∧ ∃ stored, w.engine.tables.get (t.schema, t.name) = some stored ∧ stored.columns = columns)
      fun u => u = w ∧ ¬ (t.connection.IsLive w
        ∧ ∃ stored, w.engine.tables.get (t.schema, t.name) = some stored) := by
  refine t.connection.ends_withSession (fun id hid => ?_) fun hclosed => ⟨rfl, ?_⟩
  · refine SessionM.ends_onEngine.mpr ((MemoryEngine.ends_table id t.schema t.name).mono ?_ ?_)
    · rintro columns _ ⟨rfl, hlive, hstored⟩
      exact ⟨rfl, ⟨id, hid, hlive⟩, hstored⟩
    · rintro _ ⟨rfl, hnone⟩
      refine ⟨rfl, ?_⟩
      rintro ⟨⟨id', hid', hlive⟩, hstored⟩
      cases hid.symm.trans hid'
      exact hnone ⟨hlive, hstored⟩
  · rintro ⟨⟨id, hid, -⟩, -⟩
    cases hclosed.symm.trans hid

/-- Where the connection is live and the table is stored with a column for each array, all columns being
built decides together with the pending refusal. -/
lemma accepts_iff {t : Table} {arrays : List AppendArray} {w : Embedding MemoryEngine}
    {stored : MemoryTable} (hlive : t.connection.IsLive w)
    (hstored : w.engine.tables.get (t.schema, t.name) = some stored)
    (hcount : arrays.length = stored.columns.length) :
    t.Accepts arrays w stored
      ↔ (∃ batch, buildColumns t.connection.options (rowsOf arrays) stored.columns arrays = .ok batch)
        ∧ w.engine.appendError = none := by
  rw [exists_buildColumns_iff]
  have harrays : (stored.columns.zip arrays).map Prod.snd = arrays := List.map_snd_zip hcount.le
  constructor
  · intro h
    refine ⟨fun p hp => ⟨h.rows_eq p.2 ?_, h.suits p hp⟩, h.ready⟩
    exact harrays ▸ List.mem_map_of_mem hp
  · rintro ⟨hbuilt, hready⟩
    refine ⟨hlive, hstored, hcount, ?_, fun p hp => (hbuilt p hp).2, hready⟩
    rw [← harrays, List.forall_mem_map, harrays]
    exact fun p hp => (hbuilt p hp).1

/-- A batch that is built for a table has the rows of the arrays, also where there are none. -/
lemma Accepts.batchRows_eq {t : Table} {arrays : List AppendArray} {w : Embedding MemoryEngine}
    {stored : MemoryTable} (h : t.Accepts arrays w stored) {batch : List Column}
    (hbatch : List.Forall₂ (BuiltFor t.connection.options (rowsOf arrays)) (stored.columns.zip arrays)
      batch) : batchRows batch = rowsOf arrays := by
  cases batch with
  | nil =>
    have hnone : arrays = [] := by
      have hlength := hbatch.length_eq
      rw [List.length_zip, ← h.length_eq, min_self] at hlength
      exact List.length_eq_zero_iff.mp hlength
    rw [hnone]
    rfl
  | cons c rest =>
    obtain ⟨p, -, hc, -, -⟩ := List.forall₂_cons_right_iff.mp hbatch
    obtain ⟨type, -, -, -, -, hcount⟩ := hc
    exact hcount

/-- An embedding with one more batch of rows in a table. -/
def addBatch (t : Table) (batch : List Column) (w : Embedding MemoryEngine) : Embedding MemoryEngine :=
  { w with engine := w.engine.addBatch t.schema t.name batch }

/-- On a live connection, a batch for all columns of a stored table is added, unless a refusal is
pending. -/
lemma ends_addBuilt {t : Table} {w : Embedding MemoryEngine} {stored : MemoryTable} {batch : List Column}
    (hlive : t.connection.IsLive w)
    (hstored : w.engine.tables.get (t.schema, t.name) = some stored)
    (hlength : batch.length = stored.columns.length) :
    Ends (t.connection.withSession fun id => StorageEngine.append id t.schema t.name batch) w
      (fun _ u => w.engine.appendError = none ∧ u = t.addBatch batch w)
      fun u => w.engine.appendError ≠ none
        ∧ u = { w with engine := { w.engine with appendError := none } } := by
  obtain ⟨id, hid, hsession⟩ := hlive
  refine t.connection.ends_withSession (fun id' hid' => ?_) fun hclosed => ?_
  · cases hid.symm.trans hid'
    refine SessionM.ends_onEngine.mpr ((MemoryEngine.ends_append hsession hstored hlength).mono ?_ ?_)
    · rintro - _ ⟨hready, rfl⟩
      exact ⟨hready, rfl⟩
    · rintro _ ⟨hpending, rfl⟩
      exact ⟨hpending, rfl⟩
  · cases hclosed.symm.trans hid

/-- Rows are added exactly if the table accepts them, and else nothing changes but that a pending refusal
is used up. -/
lemma ends_append (t : Table) (arrays : List AppendArray) (w : Embedding MemoryEngine) :
    Ends (t.append arrays) w
      (fun rows u => ∃ stored, t.Accepts arrays w stored ∧ rows = rowsOf arrays
        ∧ ∃ batch, List.Forall₂ (BuiltFor t.connection.options rows) (stored.columns.zip arrays) batch
          ∧ u = t.addBatch batch w)
      fun u => (¬ ∃ stored, t.Accepts arrays w stored)
        ∧ (u = w ∨ w.engine.appendError ≠ none
          ∧ u = { w with engine := { w.engine with appendError := none } }) := by
  refine ends_bind.mpr ((t.ends_columns w).mono ?_ ?_)
  · rintro columns _ ⟨rfl, hlive, stored, hstored, rfl⟩
    refine ends_ite.mpr ⟨fun hcount => ⟨?_, .inl rfl⟩, fun hcount => ?_⟩
    · rintro ⟨stored', h⟩
      cases hstored.symm.trans h.get_eq
      exact hcount h.length_eq
    have haccepts := accepts_iff hlive hstored (not_not.mp hcount)
    refine ends_bind.mpr ?_
    change Ends (liftM (buildColumns _ (rowsOf arrays) _ _)) _ _ _
    rcases hbuilt : buildColumns t.connection.options (rowsOf arrays) stored.columns arrays with e | batch
    · -- a column is not built, and the engine is not asked
      refine ⟨?_, .inl rfl⟩
      rintro ⟨stored', h⟩
      cases hstored.symm.trans h.get_eq
      obtain ⟨⟨batch, hbatch⟩, -⟩ := haccepts.mp h
      cases hbuilt.symm.trans hbatch
    · have hbatch := buildColumns_eq_ok_iff.mp hbuilt
      have hlength : batch.length = stored.columns.length := by
        rw [← hbatch.length_eq, List.length_zip, not_not.mp hcount, min_self]
      refine ends_bind.mpr ((ends_addBuilt hlive hstored hlength).mono ?_ ?_)
      · rintro - u ⟨hready, rfl⟩
        exact ⟨stored, haccepts.mpr ⟨⟨batch, hbuilt⟩, hready⟩, rfl, batch, hbatch, rfl⟩
      · rintro u ⟨hpending, rfl⟩
        refine ⟨?_, .inr ⟨hpending, rfl⟩⟩
        rintro ⟨stored', h⟩
        exact hpending h.ready
  · rintro _ ⟨rfl, hnone⟩
    refine ⟨?_, .inl rfl⟩
    rintro ⟨stored, h⟩
    exact hnone ⟨h.live, stored, h.get_eq⟩

/-- **All rows or none.**  Rows are added exactly if the table accepts them. Then the table has one batch
more, with a column for each array, all of them with the number of rows that is given back, and nothing
else has changed. If they are not added, nothing has changed but that a pending refusal is used up.  And
a flat array that fits a column is never refused for its type. -/
theorem append_allOrNothing (t : Table) (arrays : List AppendArray) (w : Embedding MemoryEngine) :
    (∀ rows, (∃ u, t.append arrays w = (.ok rows, u))
        ↔ rows = rowsOf arrays ∧ ∃ stored, t.Accepts arrays w stored)
      ∧ (∀ rows u, t.append arrays w = (.ok rows, u) →
          ∃ stored batch, w.engine.tables.get (t.schema, t.name) = some stored
            ∧ List.Forall₂ (BuiltFor t.connection.options rows) (stored.columns.zip arrays) batch
            ∧ u = t.addBatch batch w
            ∧ u.engine.tables.get (t.schema, t.name)
                = some { stored with batches := stored.batches ++ [batch] }
            ∧ (∀ key ≠ (t.schema, t.name), u.engine.tables.get key = w.engine.tables.get key)
            ∧ u.engine.appendedRows t.schema t.name = w.engine.appendedRows t.schema t.name + rows)
      ∧ (∀ e u, t.append arrays w = (.error e, u) →
          u = w ∨ w.engine.appendError ≠ none
            ∧ u = { w with engine := { w.engine with appendError := none } })
      ∧ ∀ (e : Element) (values : Array e.Carrier) (type : LogicalType) (options : MarshalOptions),
          (AppendArray.flat e values).fits type.hostKind = true →
          ∃ c, Column.ofArray e type options values = .ok c := by
  have hends := t.ends_append arrays w
  refine ⟨fun rows => ⟨?_, ?_⟩, ?_, ?_, fun e values type options => AppendArray.exists_ofArray_of_fits⟩
  · rintro ⟨u, hu⟩
    obtain ⟨stored, h, hrows, -⟩ := (ends_iff_of_ok hu).mp hends
    exact ⟨hrows, stored, h⟩
  · rintro ⟨rfl, h⟩
    rcases hresult : t.append arrays w with ⟨e | rows, u⟩
    · exact absurd h ((ends_iff_of_error hresult).mp hends).1
    · obtain ⟨-, -, rfl, -⟩ := (ends_iff_of_ok hresult).mp hends
      exact ⟨u, rfl⟩
  · intro rows u hu
    obtain ⟨stored, h, rfl, batch, hbatch, rfl⟩ := (ends_iff_of_ok hu).mp hends
    refine ⟨stored, batch, h.get_eq, hbatch, rfl, ?_, fun key hkey => ?_, ?_⟩
    · exact (get_addBatch ..).trans (by rw [if_pos rfl, h.get_eq]; rfl)
    · exact (get_addBatch ..).trans (if_neg hkey)
    · exact (appendedRows_addBatch batch h.get_eq).trans (by rw [h.batchRows_eq hbatch])
  · intro e u hu
    exact ((ends_iff_of_error hu).mp hends).2

/-- A table of numbers and texts takes two rows, one of them without a text. While a refusal is pending,
that is used up in place of adding the rows. -/
theorem append_allOrNothing_numbersAndTexts :
    let stored : MemoryTable :=
      { columns := [{ name := "n", sqlType := "int" }, { name := "s", sqlType := "varchar" }] }
    let w : Option String → Embedding MemoryEngine := fun appendError =>
      { engine :=
          { initialized := true, lastHandle := 1, sessions := ⟨[(1, {})]⟩, appendError
            tables := ⟨[(("sys", "t"), stored)]⟩ }
        links := #[⟨some 1⟩] }
    let t : Table := ⟨⟨0, {}⟩, "sys", "t"⟩
    let numbers : AppendArray := .flat .int #[(7 : Int32), 8]
    let texts : AppendArray := .objects .string [.ok (some (.string "né")), .ok none]
    (∃ u batch, t.append [numbers, texts] (w none) = (.ok 2, u) ∧ u = t.addBatch batch (w none)
        ∧ batch.length = 2 ∧ u.engine.appendedRows "sys" "t" = 2)
      ∧ (∃ e u, t.append [numbers, texts] (w (some "full")) = (.error e, u)
        ∧ (u = w (some "full") ∨ u = w none))
      ∧ numbers.fits LogicalType.int.hostKind = true
      ∧ ∃ c, Column.ofArray .int .int {} #[(7 : Int32), 8] = .ok c := by
  intro stored w t numbers texts
  obtain ⟨hiff, hdone, -, hfits⟩ := append_allOrNothing t [numbers, texts] (w none)
  obtain ⟨-, -, hfailed, -⟩ := append_allOrNothing t [numbers, texts] (w (some "full"))
  have haccepts : t.Accepts [numbers, texts] (w none) stored :=
    (accepts_iff ⟨1, rfl, rfl⟩ rfl rfl).mpr ⟨⟨_, rfl⟩, rfl⟩
  obtain ⟨u, hu⟩ := (hiff 2).mpr ⟨rfl, stored, haccepts⟩
  refine ⟨?_, ⟨_, _, rfl, (hfailed _ _ rfl).imp_right And.right⟩, rfl, hfits .int _ .int {} rfl⟩
  obtain ⟨_, batch, hstored, hbatch, hadded, -, -, hrows⟩ := hdone 2 u hu
  cases hstored
  exact ⟨u, batch, hu, hadded, hbatch.length_eq.symm, hrows⟩

end Table

end ColumnBridge
