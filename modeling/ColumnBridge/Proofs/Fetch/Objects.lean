import ColumnBridge.Fetch
import ColumnBridge.Proofs.Flags.Exact
import ColumnBridge.Proofs.Stored.Fetched

/-!
Rows fetched as objects, one at a time and as a batch.

A batch looks its class up once, skips the test for nil where the flags of the column allow it, and writes
into an array until something fails.  None of this can be seen from outside: a batch is what scalar
fetches of its rows give, one after the other, up to the first failure.

* `HostContext.classOf_of_resolveAll`: a context that was resolved has the class of every kind;
* `Column.fetchScalar_of_read`: a row that is read is fetched by a host that still makes objects;
* `Column.NonNilTruthful`, `Column.nonNilTruthful_of_built`: the flag that the batch relies on;
* `Column.fetchScalars`: the scalar fetches that a batch is compared with, `Column.fillObjects_eq`: the
  loop of a batch gives the same, and `Column.RowByRow`: what it leaves on success and on failure;
* `Column.fetchObjects_rowByRow`: all of this for a whole batch.
-/

namespace ColumnBridge

/-! ### Classes and objects -/

namespace HostContext

/-- Classes are resolved in the order in which they are asked for. -/
lemma classes_of_resolveFrom {host after : ObjectHost} {found kinds : List HostKind}
    {context : HostContext} (h : resolveFrom host found kinds = (.ok context, after)) :
    context.classes = found ++ kinds := by
  induction kinds generalizing host found with
  | nil =>
    cases h
    rw [List.append_nil]
  | cons kind kinds ih =>
    rw [resolveFrom, ObjectHost.resolve] at h
    by_cases hmissing : host.missing = some kind
    · rw [if_pos hmissing] at h
      cases h
    · rw [if_neg hmissing] at h
      rw [ih h, List.append_assoc, List.singleton_append]

/-- A context that was resolved has the class of every kind. -/
theorem classOf_of_resolveAll {host after : ObjectHost} {context : HostContext}
    (h : resolveAll host = (.ok context, after)) (kind : HostKind) :
    context.classOf kind = .ok kind := by
  have hclasses : context.classes = HostKind.all := classes_of_resolveFrom h
  rw [classOf, hclasses, HostKind.all_getElem_index]

end HostContext

namespace ObjectHost

/-- An object holds the value that it was made of. -/
lemma eq_of_construct {host after : ObjectHost} {cls : HostKind} {v object : HostValue}
    (h : host.construct cls v = (.ok object, after)) : object = v := by
  rw [construct] at h
  split at h
  · cases h
  · split at h
    · cases h
    · cases h
      rfl

/-- A host that still makes objects makes one of every value of the class. -/
lemma construct_of_kind {host : ObjectHost} {cls : HostKind} {v : HostValue}
    (hhost : host.isExhausted = false) (hkind : v.kind = cls) :
    ∃ after, host.construct cls v = (.ok v, after) := by
  rw [construct, hhost, if_neg Bool.false_ne_true, if_neg (not_not.mpr hkind)]
  exact ⟨_, rfl⟩

end ObjectHost

namespace Column

section Scalar

variable {c : Column} {host : ObjectHost} {context : HostContext} {options : MarshalOptions} {row : ℕ}

/-- A value that is read has the kind of the host class of the column. -/
lemma kind_of_read {v : HostValue} (h : c.read options row = .ok (some v)) :
    v.kind = c.type.hostKind := by
  obtain ⟨x, -, hread⟩ := exists_cell_of_read h
  exact LogicalType.kind_of_decode (LogicalType.read_eq_ok_some_iff.mp hread).2

/-- A boxed value is the value. -/
lemma eq_of_boxValue {kind : HostKind} {value object : Option HostValue}
    (h : (boxValue host context kind value).1 = .ok object) : object = value := by
  cases value with
  | none =>
    cases h
    rfl
  | some v =>
    rw [boxValue] at h
    split at h
    · cases h
    · next cls _ =>
      cases hmade : host.construct cls v with
      | mk made after =>
        rw [hmade] at h
        obtain ⟨o, rfl, rfl⟩ := map_eq_ok.mp h
        rw [ObjectHost.eq_of_construct hmade]

/-- A scalar fetch gives the value that is read. -/
lemma read_of_fetchScalar {object : Option HostValue} {after : ObjectHost}
    (h : c.fetchScalar host context options row = (.ok object, after)) :
    c.read options row = .ok object := by
  rw [fetchScalar] at h
  split at h
  · cases h
  · next value hread =>
    have hboxed := Halt.lift_eq_ok.mp (congrArg Prod.fst h)
    rw [hread, eq_of_boxValue hboxed]

/-- A row that is read is fetched by a host that still makes objects. -/
theorem fetchScalar_of_read (hclass : context.classOf c.type.hostKind = .ok c.type.hostKind)
    {v : Option HostValue} (hread : c.read options row = .ok v) (hhost : host.isExhausted = false) :
    ∃ after, c.fetchScalar host context options row = (.ok v, after) := by
  rw [fetchScalar, hread]
  cases v with
  | none => exact ⟨host, rfl⟩
  | some w =>
    obtain ⟨after, hmade⟩ := ObjectHost.construct_of_kind hhost (kind_of_read hread)
    simp only [boxValue, hclass, hmade]
    exact ⟨after, rfl⟩

end Scalar

/-! ### The flag that a batch relies on -/

/-- A column that is flagged as without nil has no nil row. -/
def NonNilTruthful (c : Column) : Prop := c.flags.nonNil = true → ∀ row, c.isNil row ≠ .ok true

/-- The flag of a built column is true. -/
theorem nonNilTruthful_of_built {type : LogicalType} {options : MarshalOptions} {c : Column}
    (h : Built type options c) (hfit : c.Addressable) : c.NonNilTruthful := by
  intro hflag row hnil
  have hnullable := (nullable_iff_of_built h hfit).mpr ⟨row, hnil⟩
  have hboth := c.nullable_eq
  rw [hflag] at hboth
  exact absurd (hnullable.symm.trans hboth) (by decide)

/-- Where the flag is true, the test for nil can be left out. -/
lemma value_eq_read {c : Column} (hflag : c.NonNilTruthful) (options : MarshalOptions) (row : ℕ) :
    (if c.flags.nonNil then (c.decode options row).map some else c.read options row)
      = c.read options row := by
  split
  · next hnon =>
    rw [decode, read]
    cases hcell : c.cell row with
    | error e => rfl
    | ok x =>
      have hnil : c.type.isNilCell x = false := by
        rw [Bool.eq_false_iff]
        intro htrue
        exact hflag hnon row (map_eq_ok.mpr ⟨x, hcell, htrue⟩)
      show (c.type.decode options x).map some = c.type.read options x
      rw [LogicalType.read, if_neg (by rw [hnil]; exact Bool.false_ne_true)]
  · rfl

/-! ### Scalar fetches one after the other -/

section Batch

variable {c : Column} {context : HostContext} {options : MarshalOptions}

/-- The scalar fetches of the rows from `row` on, one for each entry of `out`, up to the first failure.
The entry of a row that failed and all later ones are left. -/
def fetchScalars (c : Column) (host : ObjectHost) (context : HostContext) (options : MarshalOptions)
    (row : ℕ) : List (Option HostValue) → FetchOutcome
  | [] => ⟨.ok (), [], host⟩
  | entry :: rest =>
    match c.fetchScalar host context options row with
    | (.error e, after) => ⟨.error e, entry :: rest, after⟩
    | (.ok object, after) =>
      let tail := c.fetchScalars after context options (row + 1) rest
      { tail with out := object :: tail.out }

lemma fetchScalars_of_error {host after : ObjectHost} {row : ℕ} {e : Halt MarshalError}
    (h : c.fetchScalar host context options row = (.error e, after)) (entry : Option HostValue)
    (rest : List (Option HostValue)) :
    c.fetchScalars host context options row (entry :: rest) = ⟨.error e, entry :: rest, after⟩ := by
  rw [fetchScalars, h]

lemma fetchScalars_of_ok {host after : ObjectHost} {row : ℕ} {object : Option HostValue}
    (h : c.fetchScalar host context options row = (.ok object, after)) (entry : Option HostValue)
    (rest : List (Option HostValue)) :
    c.fetchScalars host context options row (entry :: rest)
      = { c.fetchScalars after context options (row + 1) rest with
          out := object :: (c.fetchScalars after context options (row + 1) rest).out } := by
  rw [fetchScalars, h]

/-- The loop of a batch gives what scalar fetches give. -/
lemma fillObjects_eq (hclass : context.classOf c.type.hostKind = .ok c.type.hostKind)
    (host : ObjectHost) (row : ℕ) (out : List (Option HostValue)) :
    fillObjects (c.read options) c.type.hostKind host row out
      = c.fetchScalars host context options row out := by
  induction out generalizing host row with
  | nil => rfl
  | cons entry rest ih =>
    rw [fillObjects]
    cases hread : c.read options row with
    | error e =>
      have hfetch : c.fetchScalar host context options row = (.error e, host) := by
        rw [fetchScalar, hread]
      rw [fetchScalars_of_error hfetch]
    | ok value =>
      cases value with
      | none =>
        have hfetch : c.fetchScalar host context options row = (.ok none, host) := by
          rw [fetchScalar, hread]
          rfl
        rw [fetchScalars_of_ok hfetch, ← ih]
      | some v =>
        have hfetch : c.fetchScalar host context options row
            = (Halt.lift ((host.construct c.type.hostKind v).1.map some),
                (host.construct c.type.hostKind v).2) := by
          simp only [fetchScalar, hread, boxValue, hclass]
        cases hmade : host.construct c.type.hostKind v with
        | mk made after =>
          rw [hmade] at hfetch
          cases made with
          | error e =>
            rw [fetchScalars_of_error hfetch]
            simp only [hmade]
          | ok object =>
            rw [fetchScalars_of_ok hfetch, ← ih]
            simp only [hmade]

/-- What a fetch into `out` leaves if it goes row by row: what scalar fetches leave.  If all succeed, every
entry holds what its row is read as; if the one of row `first + k` fails, the batch fails alike, the
entries before hold what the scalar fetches of the rows before gave, and all others are left. -/
structure RowByRow (c : Column) (host : ObjectHost) (context : HostContext) (options : MarshalOptions)
    (first : ℕ) (out : List (Option HostValue)) (outcome : FetchOutcome) : Prop where
  eq_scalars : outcome = c.fetchScalars host context options first out
  of_ok : outcome.result = .ok () →
    outcome.out.length = out.length
      ∧ ∀ (i : ℕ) (object : Option HostValue), outcome.out[i]? = some object →
          c.read options (first + i) = .ok object
  of_error : ∀ e, outcome.result = .error e →
    ∃ k < out.length,
      let done := c.fetchScalars host context options first (out.take k)
      done.result = .ok () ∧ done.out.length = k
        ∧ c.fetchScalar done.host context options (first + k) = (.error e, outcome.host)
        ∧ outcome.out = done.out ++ out.drop k

/-- Scalar fetches that all succeed give what the rows are read as. -/
lemma read_of_fetchScalars {host : ObjectHost} {row : ℕ} {out : List (Option HostValue)}
    (h : (c.fetchScalars host context options row out).result = .ok ()) :
    (c.fetchScalars host context options row out).out.length = out.length
      ∧ ∀ (i : ℕ) (object : Option HostValue),
          (c.fetchScalars host context options row out).out[i]? = some object →
          c.read options (row + i) = .ok object := by
  induction out generalizing host row with
  | nil => exact ⟨rfl, fun _ _ hi => nomatch hi⟩
  | cons entry rest ih =>
    cases hfetch : c.fetchScalar host context options row with
    | mk result after =>
      cases result with
      | error e =>
        rw [fetchScalars_of_error hfetch] at h
        cases h
      | ok object =>
        rw [fetchScalars_of_ok hfetch] at h ⊢
        obtain ⟨hlength, hrows⟩ := ih h
        refine ⟨congrArg (· + 1) hlength, ?_⟩
        intro i found hi
        cases i with
        | zero =>
          cases hi
          exact read_of_fetchScalar hfetch
        | succ i =>
          rw [Nat.add_comm i, ← Nat.add_assoc]
          exact hrows i found hi

/-- Scalar fetches that do not all succeed stop at the first that fails. -/
lemma exists_failure_of_fetchScalars {host : ObjectHost} {row : ℕ} {out : List (Option HostValue)}
    {e : Halt MarshalError} (h : (c.fetchScalars host context options row out).result = .error e) :
    ∃ k < out.length,
      let done := c.fetchScalars host context options row (out.take k)
      done.result = .ok () ∧ done.out.length = k
        ∧ c.fetchScalar done.host context options (row + k)
          = (.error e, (c.fetchScalars host context options row out).host)
        ∧ (c.fetchScalars host context options row out).out = done.out ++ out.drop k := by
  induction out generalizing host row with
  | nil => cases h
  | cons entry rest ih =>
    cases hfetch : c.fetchScalar host context options row with
    | mk result after =>
      cases result with
      | error e' =>
        rw [fetchScalars_of_error hfetch] at h ⊢
        cases h
        exact ⟨0, Nat.zero_lt_succ _, rfl, rfl, hfetch, rfl⟩
      | ok object =>
        rw [fetchScalars_of_ok hfetch] at h ⊢
        obtain ⟨k, hk, hdone, hlength, hfails, hout⟩ := ih h
        refine ⟨k + 1, Nat.succ_lt_succ hk, ?_⟩
        rw [List.take_succ_cons, fetchScalars_of_ok hfetch]
        refine ⟨hdone, congrArg (· + 1) hlength, ?_, ?_⟩
        · rw [Nat.add_comm k, ← Nat.add_assoc]
          exact hfails
        · rw [List.drop_succ_cons, hout, List.cons_append]

/-- **A batch goes row by row.**  With a context that was resolved, whatever the state of the host: a batch
that lies in a column whose flag tells the truth, as that of every built column does, leaves what scalar
fetches of its rows leave.  One that does not lie in the column fails before anything is written or made.
A scalar fetch of a row that is read gives its value unless the host refuses, since the value has the kind
of the host class of the column. -/
theorem fetchObjects_rowByRow {before resolved : ObjectHost}
    (hcontext : HostContext.resolveAll before = (.ok context, resolved)) (c : Column)
    (options : MarshalOptions) (host : ObjectHost) (first : ℕ) (out : List (Option HostValue)) :
    (∀ type built, Built type built c → c.Addressable → c.NonNilTruthful)
      ∧ (c.NonNilTruthful → first + out.length ≤ c.count →
          c.RowByRow host context options first out
            (c.fetchObjects host context options first out))
      ∧ (c.count < first + out.length →
          c.fetchObjects host context options first out
            = ⟨.error (.failure
                  (.rowOutOfRange first (min (first + out.length) StorageKind.maxRow) c.count)),
                out, host⟩)
      ∧ ∀ row v, c.read options row = .ok v →
          (∀ w, v = some w → w.kind = c.type.hostKind)
            ∧ (host.isExhausted = false →
                ∃ after, c.fetchScalar host context options row = (.ok v, after)) := by
  have hclass := HostContext.classOf_of_resolveAll hcontext c.type.hostKind
  refine ⟨fun _ _ => nonNilTruthful_of_built, ?_, ?_, ?_⟩
  · intro hflag hin
    have heq : c.fetchObjects host context options first out
        = c.fetchScalars host context options first out := by
      simp only [fetchObjects, window, if_pos hin, hclass, value_eq_read hflag]
      exact fillObjects_eq hclass host first out
    rw [heq]
    exact ⟨rfl, read_of_fetchScalars, fun _ => exists_failure_of_fetchScalars⟩
  · intro hbeyond
    simp only [fetchObjects, window, if_neg (Nat.not_le.mpr hbeyond)]
  · intro row v hread
    refine ⟨?_, fetchScalar_of_read hclass hread⟩
    rintro w rfl
    exact kind_of_read hread

/-- A host that makes one object fills the rows before the second value of a built column, and the nil
between them, and fails; a batch that ends behind the column fails at once; and a column that is flagged as
without nil is filled up to an offset that leads behind its heap. -/
theorem fetchObjects_rowByRow_partial :
    (∃ c, ofValues .bigInt {} [some (.long 7), none, some (.long 8)] = .ok c
        ∧ c.RowByRow { limit := some 1 } ⟨HostKind.all⟩ {} 0 [some (.byte 0), none, some (.byte 2)]
          ⟨.error (.failure (.host s!"could not construct {HostKind.long.className}")),
            [some (.long 7), none, some (.byte 2)], { limit := some 1, constructed := 1 }⟩
        ∧ c.fetchObjects { limit := some 1 } ⟨HostKind.all⟩ {} 2 [none, none]
          = ⟨.error (.failure (.rowOutOfRange 2 4 3)), [none, none], { limit := some 1 }⟩)
      ∧ ∃ c, make .blob ⟨.heap, ⟨#[0, 100], Heap.empty.push (.payload ⟨#[1, 2]⟩)⟩⟩
            ⟨false, true, false, false⟩ = .ok c
        ∧ c.RowByRow {} ⟨HostKind.all⟩ {} 0 [none, some (.byte 1)]
          ⟨.error (.failure (Heap.badEntry 100)), [some (.bytes ⟨#[1, 2]⟩), some (.byte 1)],
            { constructed := 1 }⟩ := by
  have hcontext : HostContext.resolveAll {} = (.ok ⟨HostKind.all⟩, { liveClasses := 13 }) := by rfl
  constructor
  · have hbuild : ofValues .bigInt {} [some (.long 7), none, some (.long 8)]
        = .ok (ofCells .bigInt .first [(7 : Int64), Int64.minValue, 8]) := by rfl
    have hfit : (ofCells .bigInt .first [(7 : Int64), Int64.minValue, 8]).Addressable := by decide
    obtain ⟨hbuilt, hrows, -, -⟩ := fetchObjects_rowByRow hcontext
      (ofCells .bigInt .first [(7 : Int64), Int64.minValue, 8]) {} { limit := some 1 } 0
      [some (.byte 0), none, some (.byte 2)]
    obtain ⟨-, -, hbeyond, -⟩ := fetchObjects_rowByRow hcontext
      (ofCells .bigInt .first [(7 : Int64), Int64.minValue, 8]) {} { limit := some 1 } 2 [none, none]
    exact ⟨_, hbuild, hrows (hbuilt .bigInt {} (.ofRows hbuild) hfit) (by decide), hbeyond (by decide)⟩
  · obtain ⟨-, hrows, -, -⟩ := fetchObjects_rowByRow hcontext
      (Column.mk .blob ⟨#[0, 100], Heap.empty.push (.payload ⟨#[1, 2]⟩)⟩ ⟨false, true, false, false⟩ rfl)
      {} {} 0 [none, some (.byte 1)]
    refine ⟨_, rfl, hrows ?_ (by decide)⟩
    intro _ row hnil
    obtain ⟨x, hx, hmark⟩ := map_eq_ok.mp hnil
    have hrow : row < 2 := StorageKind.lt_rowCount_of_cell_eq_ok hx
    interval_cases row
    · cases hx
      cases hmark
    · cases hx

end Batch

end Column

end ColumnBridge
