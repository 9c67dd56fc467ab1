import ColumnBridge.Proofs.Engine.Calls

/-!
References to the columns of an engine in memory, taken and given back.

A reference changes one count and nothing else, so that any number of them can be given back at once.

* `MemoryEngine.recount`: the references to every column counted in another way; giving back is a case of
  it (`unfixColumn_eq`, `run_unfixColumns`), and so is taking, which is also counted towards the reference
  to be refused (`MemoryEngine.taken`, `fixColumn_of_get`);
* `MemoryEngine.recount_taken`: what is taken and given back leaves no trace in the columns;
* `MemoryEngine.fixColumn_of_refused`, `fixColumn_of_missing`: the references that are not given;
* `MemoryEngine.cleanedUp`: an engine without an output.
-/

namespace ColumnBridge.MemoryEngine

variable {e : MemoryEngine} {key : ColumnId} {held : HeldColumn}

/-! ### Counting in another way -/

/-- The references to every column, counted in another way. -/
def recount (count : ColumnId → ℕ → ℕ) (e : MemoryEngine) : MemoryEngine :=
  { e with
    columns := ⟨e.columns.entries.map fun c => (c.1, { c.2 with fixes := count c.1 c.2.fixes })⟩ }

lemma recount_self (e : MemoryEngine) : e.recount (fun _ n => n) = e := by
  rw [recount, List.map_id']

lemma recount_recount (f g : ColumnId → ℕ → ℕ) (e : MemoryEngine) :
    (e.recount f).recount g = e.recount fun key n => g key (f key n) := by
  simp only [recount, List.map_map, Function.comp_def]

lemma get_recount (count : ColumnId → ℕ → ℕ) (e : MemoryEngine) (key : ColumnId) :
    (e.recount count).columns.get key
      = (e.columns.get key).map fun c => { c with fixes := count key c.fixes } := by
  simp only [Ledger.get, recount, List.find?_map, Option.map_map, Function.comp_def]
  refine Option.map_congr fun c hc => ?_
  have hkey : c.1 = key := by simpa using List.find?_some hc
  rw [hkey]

/-- Changing the references to one column by one. -/
lemma modify_fixes_eq {change : ℕ → ℕ → ℕ} (h : ∀ n, change n 0 = n) (key : ColumnId) (e : MemoryEngine) :
    { e with columns := e.columns.modify key fun c => { c with fixes := change c.fixes 1 } }
      = e.recount fun other n => change n ([key].count other) := by
  rw [recount, Ledger.modify]
  congr 2
  refine List.map_congr_left fun c _ => ?_
  rw [List.count_singleton]
  by_cases heq : c.1 = key
  · rw [if_pos heq, if_pos (by simpa using heq.symm)]
  · rw [if_neg heq, if_neg (by simpa using Ne.symm heq), h]

/-! ### Giving back -/

lemma unfixColumn_eq (key : ColumnId) (e : MemoryEngine) :
    e.unfixColumn key = e.recount fun other n => n - [key].count other :=
  modify_fixes_eq Nat.sub_zero key e

/-- Whatever is given back, in any order, is counted off. -/
lemma run_unfixColumns (e : MemoryEngine) (ids : List ColumnId) :
    e.run (ids.map .unfixColumn) = e.recount fun key n => n - ids.count key := by
  induction ids generalizing e with
  | nil => exact (recount_self e).symm
  | cons id ids ih =>
    calc e.run ((id :: ids).map .unfixColumn)
        = (e.unfixColumn id).run (ids.map .unfixColumn) := rfl
      _ = (e.unfixColumn id).recount fun key n => n - ids.count key := ih _
      _ = e.recount fun key n => n - [id].count key - ids.count key := by
          rw [unfixColumn_eq, recount_recount]
      _ = e.recount fun key n => n - (id :: ids).count key := by
          congr 1
          funext key n
          rw [Nat.sub_sub, ← List.count_append, List.singleton_append]

/-! ### Taking -/

/-- An engine that has counted some references towards the one that it is to refuse. -/
def countDown (n : ℕ) (e : MemoryEngine) : MemoryEngine :=
  { e with lookupsBeforeFailure := e.lookupsBeforeFailure.map (· - n) }

lemma countLookup_of_ne (h : e.lookupsBeforeFailure ≠ some 0) (key : ColumnId) :
    countLookup key e = (.ok (), e.countDown 1) := by
  rw [countLookup, get_bind_apply]
  cases hlookups : e.lookupsBeforeFailure with
  | none =>
    have hsame : e.countDown 1 = e := by rw [countDown, hlookups, Option.map_none, ← hlookups]
    rw [hsame]
    rfl
  | some n =>
    cases n with
    | zero => exact absurd hlookups h
    | succ n =>
      rw [countDown, hlookups]
      rfl

/-- An engine in which some references were taken, each counted. -/
def taken (ids : List ColumnId) (e : MemoryEngine) : MemoryEngine :=
  (e.countDown ids.length).recount fun key n => n + ids.count key

lemma taken_nil (e : MemoryEngine) : e.taken [] = e := by
  have hdown : e.countDown 0 = e := by simp [countDown]
  have htaken : e.taken [] = (e.countDown 0).recount fun _ n => n := rfl
  rw [htaken, recount_self, hdown]

lemma taken_taken (ids ids' : List ColumnId) (e : MemoryEngine) :
    (e.taken ids).taken ids' = e.taken (ids ++ ids') := by
  have hdown : (e.countDown ids.length).countDown ids'.length = e.countDown (ids ++ ids').length := by
    simp [countDown, Function.comp_def, Nat.sub_sub]
  calc (e.taken ids).taken ids'
      = (((e.countDown ids.length).countDown ids'.length).recount fun key n => n + ids.count key).recount
          fun key n => n + ids'.count key := rfl
    _ = e.taken (ids ++ ids') := by
        rw [hdown, recount_recount, taken]
        simp only [List.count_append, Nat.add_assoc]

lemma get_taken (ids : List ColumnId) (e : MemoryEngine) (key : ColumnId) :
    (e.taken ids).columns.get key
      = (e.columns.get key).map fun c => { c with fixes := c.fixes + ids.count key } :=
  get_recount ..

/-- What was taken and is given back leaves nothing but the count of references towards the one to be
refused. -/
lemma recount_taken (ids : List ColumnId) (e : MemoryEngine) (left : Option ℕ) :
    recount (fun key n => n - ids.count key) { e.taken ids with lookupsBeforeFailure := left }
      = { e with lookupsBeforeFailure := left } := by
  calc recount (fun key n => n - ids.count key) { e.taken ids with lookupsBeforeFailure := left }
      = ((recount (fun key n => n + ids.count key) { e with lookupsBeforeFailure := left }).recount
          fun key n => n - ids.count key) := rfl
    _ = { e with lookupsBeforeFailure := left } := by
        rw [recount_recount]
        simp only [Nat.add_sub_cancel, recount_self]

/-- A reference to a column that is there, if it is not the one to be refused. -/
lemma fixColumn_of_get (h : e.columns.get key = some held) (hlookups : e.lookupsBeforeFailure ≠ some 0) :
    fixColumn key e = (.ok held.column, e.taken [key]) := by
  have hcolumns : (e.countDown 1).columns.get key = some held := h
  rw [fixColumn, bind_apply_of_ok (countLookup_of_ne hlookups key), get_bind_apply, hcolumns]
  exact Prod.ext rfl (modify_fixes_eq Nat.add_zero key (e.countDown 1))

/-- The reference that is to be refused. -/
lemma fixColumn_of_refused (h : e.lookupsBeforeFailure = some 0) (key : ColumnId) :
    fixColumn key e = (.error (noColumn key), { e with lookupsBeforeFailure := none }) := by
  have hcount : countLookup key e = (.error (noColumn key), { e with lookupsBeforeFailure := none }) := by
    rw [countLookup, get_bind_apply, h]
    rfl
  exact bind_apply_of_error hcount

/-- There are no references to a column that is not there. -/
lemma fixColumn_of_missing (h : e.columns.get key = none) :
    (fixColumn key e).1 = .error (noColumn key) := by
  by_cases hlookups : e.lookupsBeforeFailure = some 0
  · rw [fixColumn_of_refused hlookups]
  · have hcolumns : (e.countDown 1).columns.get key = none := h
    rw [fixColumn, bind_apply_of_ok (countLookup_of_ne hlookups key), get_bind_apply, hcolumns]
    rfl

/-! ### Cleaning up -/

/-- An engine without an output, and without those of its columns that nobody holds. -/
def cleanedUp (r : ResultId) (ids : List ColumnId) (e : MemoryEngine) : MemoryEngine :=
  { e with
    cleanups := e.cleanups + 1
    results := e.results.erase r
    columns := ⟨e.columns.entries.filter fun c => !isUnheld ids c⟩ }

/-- Cleaning up what is not there is only counted. -/
lemma cleanupResult_of_none {r : ResultId} (h : e.results.get r = none) :
    cleanupResult r e = (.error (noResult r), { e with cleanups := e.cleanups + 1 }) := by
  rw [cleanupResult, modify_bind_apply, get_bind_apply]
  simp only [h]
  rfl

lemma cleanupResult_of_get {r : ResultId} {ids : List ColumnId} (h : e.results.get r = some ids) :
    cleanupResult r e = (.ok (), e.cleanedUp r ids) := by
  rw [cleanupResult, modify_bind_apply, get_bind_apply]
  simp only [h]
  rfl

lemma step_cleanup_of_get {r : ResultId} {ids : List ColumnId} (h : e.results.get r = some ids) :
    e.step (.cleanupResult r) = e.cleanedUp r ids := congrArg Prod.snd (cleanupResult_of_get h)

end ColumnBridge.MemoryEngine
