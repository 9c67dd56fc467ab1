/-!
Keyed entries in the order in which they came in.

* `Ledger.get`, `Ledger.insert`, `Ledger.erase`, `Ledger.modify`: the entry under a key, with at most one
  entry for each key that `insert` wrote;
* `Ledger.get_insert_self`, `Ledger.get_insert_of_ne`, `Ledger.get_erase_self`, `Ledger.get_modify`: what
  each does to `get`, with `Ledger.get_erase_eq_some_iff` for what is left and `Ledger.get_filter` for
  entries that are left out;
* `Ledger.contains_insert`, `Ledger.contains_of_filter`, `Ledger.contains_modify`: what each does to the
  keys in use, and `Ledger.erase_of_not_contains`: when nothing is erased.
-/

namespace ColumnBridge

/-- Keyed entries in the order in which they came in. -/
structure Ledger (κ α : Type) where
  entries : List (κ × α)

namespace Ledger

variable {κ α : Type} [DecidableEq κ]

/-- No entries. -/
def empty : Ledger κ α := ⟨[]⟩

/-- The number of entries. -/
def size (l : Ledger κ α) : Nat := l.entries.length

/-- The entry under a key. -/
def get (l : Ledger κ α) (key : κ) : Option α :=
  (l.entries.find? fun e => e.1 = key).map Prod.snd

/-- Whether there is an entry under a key. -/
def contains (l : Ledger κ α) (key : κ) : Bool := (l.get key).isSome

/-- The ledger without the entry under a key. -/
def erase (l : Ledger κ α) (key : κ) : Ledger κ α := ⟨l.entries.filter fun e => e.1 ≠ key⟩

/-- A new entry at the end, in place of an old one under the same key. -/
def insert (l : Ledger κ α) (key : κ) (value : α) : Ledger κ α :=
  ⟨(l.erase key).entries ++ [(key, value)]⟩

/-- Change the entry under a key. -/
def modify (l : Ledger κ α) (key : κ) (f : α → α) : Ledger κ α :=
  ⟨l.entries.map fun e => if e.1 = key then (e.1, f e.2) else e⟩

/-! ### What the operations do -/

theorem get_erase_self (l : Ledger κ α) (key : κ) : (l.erase key).get key = none := by
  simp [get, erase]

/-- Entries that are left out under other keys are not missed. -/
theorem get_filter {l : Ledger κ α} {key : κ} {keep : κ × α → Bool}
    (h : ∀ e ∈ l.entries, e.1 = key → keep e = true) :
    get ⟨l.entries.filter keep⟩ key = l.get key := by
  have hfind : ∀ entries : List (κ × α), (∀ e ∈ entries, e.1 = key → keep e = true) →
      (entries.filter keep).find? (fun e => e.1 = key) = entries.find? fun e => e.1 = key := by
    intro entries hkeep
    induction entries with
    | nil => rfl
    | cons e entries ih =>
      have hrest := ih fun e' he' => hkeep e' (List.mem_cons_of_mem e he')
      by_cases he : e.1 = key
      · rw [List.filter_cons_of_pos (hkeep e List.mem_cons_self he), List.find?_cons_of_pos (by simpa),
          List.find?_cons_of_pos (by simpa)]
      · rw [List.find?_cons_of_neg (by simpa), ← hrest, List.filter_cons]
        split
        · exact List.find?_cons_of_neg (by simpa)
        · rfl
  rw [get, get, hfind l.entries h]

/-- Leaving entries out brings no key into use. -/
theorem contains_of_filter {l : Ledger κ α} {key : κ} {keep : κ × α → Bool}
    (h : contains ⟨l.entries.filter keep⟩ key = true) : l.contains key = true := by
  simp only [contains, get, Option.isSome_map, List.find?_isSome] at h ⊢
  obtain ⟨e, he, hkey⟩ := h
  exact ⟨e, (List.mem_filter.mp he).1, hkey⟩

theorem get_erase_of_ne (l : Ledger κ α) {key other : κ} (h : other ≠ key) :
    (l.erase key).get other = l.get other :=
  get_filter fun _ _ he => decide_eq_true fun hkey => h (he.symm.trans hkey)

/-- What is found after an erasure is found under another key, where it was. -/
theorem get_erase_eq_some_iff {l : Ledger κ α} {key other : κ} {value : α} :
    (l.erase key).get other = some value ↔ other ≠ key ∧ l.get other = some value := by
  by_cases h : other = key
  · simp [h, get_erase_self]
  · simp [h, get_erase_of_ne]

theorem erase_of_not_contains {l : Ledger κ α} {key : κ} (h : l.contains key = false) :
    l.erase key = l := by
  rw [contains, get, Option.isSome_map, Option.isSome_eq_false_iff, Option.isNone_iff_eq_none,
    List.find?_eq_none] at h
  rw [erase, List.filter_eq_self.mpr]
  intro e he
  simpa using h e he

theorem get_insert_self (l : Ledger κ α) (key : κ) (value : α) :
    (l.insert key value).get key = some value := by
  have h := l.get_erase_self key
  simp only [get, Option.map_eq_none_iff] at h
  simp [get, insert, List.find?_append, h]

theorem get_insert_of_ne (l : Ledger κ α) {key other : κ} (h : other ≠ key) (value : α) :
    (l.insert key value).get other = l.get other := by
  have hf : ((l.erase key).entries.find? fun e => e.1 = other)
      = l.entries.find? fun e => e.1 = other := by
    simp only [erase, List.find?_filter]
    congr 1
    funext e
    by_cases he : e.1 = other <;> simp [he, h]
  have hk : ¬ key = other := fun hk => h hk.symm
  simp [get, insert, List.find?_append, hf, hk]

theorem get_modify (l : Ledger κ α) (key other : κ) (f : α → α) :
    (l.modify key f).get other = if other = key then (l.get key).map f else l.get other := by
  -- no key changes, so that the entry is found in the same place
  have hkeys (e : κ × α) : (if e.1 = key then (e.1, f e.2) else e).1 = e.1 := by
    split <;> rfl
  simp only [get, modify, List.find?_map, Option.map_map, Function.comp_def, hkeys]
  have hfound {e : κ × α} (h : l.entries.find? (fun e => e.1 = other) = some e) : e.1 = other := by
    simpa using List.find?_some h
  by_cases hother : other = key
  · subst hother
    cases h : l.entries.find? fun e => e.1 = other with
    | none => simp
    | some e => simp [hfound h]
  · cases h : l.entries.find? fun e => e.1 = other with
    | none => simp [hother]
    | some e => simp [hfound h, hother]

theorem contains_modify (l : Ledger κ α) (key other : κ) (f : α → α) :
    (l.modify key f).contains other = l.contains other := by
  rw [contains, get_modify]
  split
  · next h => rw [Option.isSome_map, h, contains]
  · rfl

/-- A key is in use after an insert if it is the new one, or was. -/
theorem contains_insert {l : Ledger κ α} {key other : κ} {value : α}
    (h : (l.insert key value).contains other = true) : other = key ∨ l.contains other = true := by
  by_cases heq : other = key
  · exact .inl heq
  · rw [contains, get_insert_of_ne l heq] at h
    exact .inr h

end Ledger

end ColumnBridge
