import ColumnBridge.Proofs.Stored.Builder

/-!
How the entries of a heap lie behind each other.

A heap only grows at its end, so an entry begins where the octets of the entries in front of it end, and
its octets stay there.  An entry is read from its own octets alone.

* `StorageKind.startOf`, `StorageKind.exists_startOf`: where entries begin, and which entry an octet belongs
  to;
* `StorageKind.extract_ofCells`, `StorageKind.toList_offsets`: the octets of an entry and the offsets of all
  of them, after any number of entries;
* `StorageKind.Tiles`, `StorageKind.tiles_ofCells`: the entries fill the heap without a gap and without
  overlapping;
* `Column.heapEntries_tile`: the same for the columns of texts and blobs, in which no row depends on the
  octets of another.
-/

namespace ColumnBridge

namespace StorageKind

/-! ### Where entries begin -/

/-- The octets of the entries in front of a position: there the entry at the position begins. -/
def startOf (entries : List HeapEntry) (i : ℕ) : ℕ :=
  ((entries.map fun e => e.octets.size).take i).sum

section Starts

variable {entries more : List HeapEntry} {e : HeapEntry} {i j p : ℕ}

lemma startOf_length (entries : List HeapEntry) :
    startOf entries entries.length = (entries.map fun e => e.octets.size).sum := by
  rw [startOf, List.take_of_length_le (List.length_map _).le]

/-- The next entry begins behind the octets of this one. -/
lemma startOf_succ (h : entries[i]? = some e) :
    startOf entries (i + 1) = startOf entries i + e.octets.size := by
  obtain ⟨hi, rfl⟩ := List.getElem?_eq_some_iff.mp h
  rw [startOf, List.sum_take_succ _ _ (by rwa [List.length_map]), List.getElem_map]
  rfl

lemma monotone_startOf (entries : List HeapEntry) : Monotone (startOf entries) :=
  List.monotone_sum_take _

/-- Entries that come later change no beginning. -/
lemma startOf_append (hi : i ≤ entries.length) : startOf (entries ++ more) i = startOf entries i := by
  rw [startOf, List.map_append, List.take_append_of_le_length (by rwa [List.length_map])]
  rfl

/-- The octets of an entry end where a later one begins, or before. -/
lemma startOf_add_le (h : entries[i]? = some e) (hij : i < j) :
    startOf entries i + e.octets.size ≤ startOf entries j := by
  rw [← startOf_succ h]
  exact monotone_startOf entries hij

/-- Later entries begin later, since no entry is without octets. -/
lemma startOf_lt (hij : i < j) (hj : j ≤ entries.length) : startOf entries i < startOf entries j := by
  have hget := List.getElem?_eq_getElem (hij.trans_le hj)
  refine lt_of_lt_of_le (Nat.lt_add_of_pos_right ?_) (startOf_add_le hget hij)
  rw [HeapEntry.size_octets]
  exact Nat.add_pos_left (by decide) _

/-- An octet in front of a position belongs to an entry in front of it. -/
lemma exists_startOf (hp : p < startOf entries j) :
    ∃ i, startOf entries i ≤ p ∧ p < startOf entries (i + 1) := by
  induction j with
  | zero => exact absurd hp (Nat.not_lt_zero p)
  | succ j ih =>
    rcases Nat.lt_or_ge p (startOf entries j) with hlt | hge
    · exact ih hlt
    · exact ⟨j, hge, hp⟩

/-- It belongs to one entry only. -/
lemma startOf_unique (hi : startOf entries i ≤ p ∧ p < startOf entries (i + 1))
    (hj : startOf entries j ≤ p ∧ p < startOf entries (j + 1)) : i = j := by
  have hle : ∀ {a b}, startOf entries a ≤ p → p < startOf entries (b + 1) → a ≤ b := by
    intro a b ha hb
    by_contra hlt
    exact absurd (monotone_startOf entries (Nat.lt_of_not_le hlt)) (Nat.not_le.mpr (ha.trans_lt hb))
  exact le_antisymm (hle hi.1 hj.2) (hle hj.1 hi.2)

/-! ### The heap of rows -/

/-- A heap has the octets of its entries. -/
lemma size_heap_ofCells (entries : List HeapEntry) :
    (ofCells heap entries).heap.size = startOf entries entries.length := by
  induction entries using List.reverseRecOn with
  | nil => rfl
  | append_singleton entries e ih =>
    have hlast : (entries ++ [e])[entries.length]? = some e := List.getElem?_concat_length
    rw [ofCells_heap_append, HeapRows.push, Heap.size_push, ih, List.length_append, List.length_singleton,
      startOf_succ hlast, startOf_append le_rfl]

/-- The octets of an entry stand where it begins. -/
lemma extract_ofCells (h : entries[i]? = some e) :
    (ofCells heap entries).heap.bytes.extract (startOf entries i)
      (startOf entries i + e.octets.size) = e.octets := by
  induction entries using List.reverseRecOn with
  | nil => cases h
  | append_singleton entries last ih =>
    have hsize := size_heap_ofCells entries
    rw [ofCells_heap_append, HeapRows.push, Heap.bytes_push]
    rcases Nat.lt_or_ge i entries.length with hlt | hge
    · rw [List.getElem?_append_left hlt] at h
      have hend : startOf entries i + e.octets.size ≤ (ofCells heap entries).heap.size := by
        rw [hsize]
        exact startOf_add_le h hlt
      rw [startOf_append hlt.le, Heap.extract_append_of_le hend]
      exact ih h
    · rw [List.getElem?_append_right hge, List.getElem?_singleton] at h
      split at h
      · next hlast =>
        have hi : i = entries.length := by omega
        cases h
        rw [hi, startOf_append le_rfl, ← hsize]
        exact ByteArray.extract_append_eq_right rfl rfl
      · cases h

/-- The offsets of a heap are where its entries begin. -/
lemma toList_offsets (entries : List HeapEntry) :
    (ofCells heap entries).offsets.toList
      = (List.range entries.length).map fun i => (startOf entries i).toUInt64 := by
  induction entries using List.reverseRecOn with
  | nil => rfl
  | append_singleton entries e ih =>
    have hbefore : (List.range entries.length).map (fun i => (startOf entries i).toUInt64)
        = (List.range entries.length).map fun i => (startOf (entries ++ [e]) i).toUInt64 := by
      refine List.map_congr_left fun i hi => ?_
      rw [startOf_append (List.mem_range.mp hi).le]
    rw [ofCells_heap_append, HeapRows.push, Array.toList_push, ih, hbefore, size_heap_ofCells,
      List.length_append, List.length_singleton, List.range_succ, List.map_append, List.map_singleton,
      startOf_append le_rfl]

/-! ### Addresses -/

section Addresses

variable {offset : UInt64} (hfit : (ofCells heap entries).heap.size < 2 ^ 64)
include hfit

lemma toNat_startOf (hi : i ≤ entries.length) :
    (startOf entries i).toUInt64.toNat = startOf entries i := by
  refine UInt64.toNat_ofNat_of_lt' (lt_of_le_of_lt ?_ hfit)
  rw [size_heap_ofCells]
  exact monotone_startOf entries hi

/-- The offset of a row is where its entry begins. -/
lemma toNat_offset (h : (ofCells heap entries).offsets[i]? = some offset) :
    offset.toNat = startOf entries i := by
  rw [← Array.getElem?_toList, toList_offsets, List.getElem?_map] at h
  obtain ⟨row, hrow, rfl⟩ := Option.map_eq_some_iff.mp h
  obtain ⟨hi, rfl⟩ := List.getElem?_eq_some_iff.mp hrow
  rw [List.length_range] at hi
  rw [List.getElem_range, toNat_startOf hfit hi.le]

/-- Each row has a larger offset than the rows in front of it. -/
lemma pairwise_offsets : (ofCells heap entries).offsets.toList.Pairwise (· < ·) := by
  rw [toList_offsets, List.pairwise_map]
  refine List.pairwise_lt_range.imp_of_mem fun hi hj hij => ?_
  rw [List.mem_range] at hi hj
  rw [UInt64.lt_iff_toNat_lt, toNat_startOf hfit hi.le, toNat_startOf hfit hj.le]
  exact startOf_lt hij hj.le

/-- An entry is found at its offset in every heap in which its octets stand there. -/
lemma entry_of_extract {other : Heap} (he : entries[i]? = some e)
    (ho : (ofCells heap entries).offsets[i]? = some offset)
    (hsame : other.bytes.extract offset.toNat (offset.toNat + e.octets.size)
      = (ofCells heap entries).heap.bytes.extract offset.toNat (offset.toNat + e.octets.size)) :
    other.entry offset.toNat = .ok e := by
  have hstart := toNat_offset hfit ho
  have hi := (List.getElem?_eq_some_iff.mp he).1
  have hsize : e.octets.size < 2 ^ 64 := by
    have hend := startOf_add_le he hi
    rw [size_heap_ofCells] at hfit
    omega
  refine Heap.entry_of_octets hsize (hsame.trans ?_)
  rw [hstart]
  exact extract_ofCells he

/-- An entry is found at its offset after any number of further entries. -/
lemma entry_ofCells_append (more : List HeapEntry) (he : entries[i]? = some e)
    (ho : (ofCells heap entries).offsets[i]? = some offset) :
    (ofCells heap (entries ++ more)).heap.entry offset.toNat = .ok e := by
  have hi := (List.getElem?_eq_some_iff.mp he).1
  have he' : (entries ++ more)[i]? = some e := by rwa [List.getElem?_append_left hi]
  have hlater := extract_ofCells he'
  rw [startOf_append hi.le] at hlater
  refine entry_of_extract hfit he ho ?_
  rw [toNat_offset hfit ho, hlater, extract_ofCells he]

end Addresses

end Starts

/-! ### Tiling -/

/-- An octet of a heap is one of the entry of a row: eight octets, and those of its payload. -/
def HasOctet (rows : HeapRows) (entries : List HeapEntry) (i p : ℕ) : Prop :=
  ∃ (e : HeapEntry) (offset : UInt64), entries[i]? = some e ∧ rows.offsets[i]? = some offset
    ∧ offset.toNat ≤ p ∧ p < offset.toNat + (8 + e.bytes.size)

/-- The entries of rows fill the heap from its first octet to its last, in order, without a gap and without
overlapping. -/
structure Tiles (rows : HeapRows) (entries : List HeapEntry) : Prop where
  count_eq : rows.offsets.size = entries.length
  increasing : rows.offsets.toList.Pairwise (· < ·)
  inside : ∀ i p, HasOctet rows entries i p → p < rows.heap.size
  covers : ∀ p < rows.heap.size, ∃! i, HasOctet rows entries i p
  size_eq : rows.heap.size = (entries.map fun e => 8 + e.bytes.size).sum

section Tiling

variable {entries : List HeapEntry} (hfit : (ofCells heap entries).heap.size < 2 ^ 64)
include hfit

/-- An octet belongs to the entry that begins last in front of it. -/
lemma hasOctet_iff {i p : ℕ} :
    HasOctet (ofCells heap entries) entries i p
      ↔ i < entries.length ∧ startOf entries i ≤ p ∧ p < startOf entries (i + 1) := by
  have hcount : (ofCells heap entries).offsets.size = entries.length := rowCount_ofCells heap entries
  constructor
  · rintro ⟨e, offset, he, ho, hlow, hhigh⟩
    rw [toNat_offset hfit ho] at hlow hhigh
    rw [startOf_succ he, e.size_octets]
    exact ⟨(List.getElem?_eq_some_iff.mp he).1, hlow, hhigh⟩
  · rintro ⟨hi, hlow, hhigh⟩
    have he := List.getElem?_eq_getElem hi
    have ho := Array.getElem?_eq_getElem (hcount ▸ hi)
    refine ⟨_, _, he, ho, ?_⟩
    rw [startOf_succ he, HeapEntry.size_octets] at hhigh
    rw [toNat_offset hfit ho]
    exact ⟨hlow, hhigh⟩

/-- Entries that are added one after the other fill their heap. -/
lemma tiles_ofCells : Tiles (ofCells heap entries) entries := by
  refine ⟨rowCount_ofCells heap entries, pairwise_offsets hfit, fun i p hp => ?_, fun p hp => ?_, ?_⟩
  · obtain ⟨hi, -, hhigh⟩ := (hasOctet_iff hfit).mp hp
    rw [size_heap_ofCells]
    exact hhigh.trans_le (monotone_startOf entries hi)
  · rw [size_heap_ofCells] at hp
    obtain ⟨i, hlow, hhigh⟩ := exists_startOf hp
    have hi : i < entries.length := by
      by_contra hge
      have hall := monotone_startOf entries (Nat.not_lt.mp hge)
      omega
    refine ⟨i, (hasOctet_iff hfit).mpr ⟨hi, hlow, hhigh⟩, fun j hj => ?_⟩
    exact startOf_unique ((hasOctet_iff hfit).mp hj).2 ⟨hlow, hhigh⟩
  · rw [size_heap_ofCells, startOf_length]
    exact congrArg List.sum (List.map_congr_left fun e _ => e.size_octets)

end Tiling

end StorageKind

/-! ### Columns of texts and blobs -/

namespace LogicalType

/-- The entry that a column of texts or blobs has for a host value, or for none. -/
inductive StoredEntry : LogicalType → Option HostValue → HeapEntry → Prop
  | text (s : String) : StoredEntry string (some (.string s)) (.payload s.toByteArray)
  | noText : StoredEntry string none .nilString
  | octets (b : ByteArray) : StoredEntry blob (some (.bytes b)) (.payload b)
  | noOctets : StoredEntry blob none .nilBlob

variable {options : MarshalOptions} {row : Except MarshalError (Option HostValue)}

lemma storedEntry_of_encode_string {e : HeapEntry} (h : string.encodeRow options row = .ok e) :
    ∃ v, row = .ok v ∧ StoredEntry string v e := by
  obtain ⟨v, rfl, hv⟩ := bind_eq_ok.mp h
  refine ⟨v, rfl, ?_⟩
  cases v with
  | none =>
    cases hv
    exact .noText
  | some v =>
    cases v <;> cases hv
    exact .text _

lemma storedEntry_of_encode_blob {e : HeapEntry} (h : blob.encodeRow options row = .ok e) :
    ∃ v, row = .ok v ∧ StoredEntry blob v e := by
  obtain ⟨v, rfl, hv⟩ := bind_eq_ok.mp h
  refine ⟨v, rfl, ?_⟩
  cases v with
  | none =>
    cases hv
    exact .noOctets
  | some v =>
    cases v <;> cases hv
    exact .octets _

/-- Where a column has a heap, it has an entry for each row. -/
lemma exists_storedEntries {type : LogicalType} (htype : type.storage = .heap)
    {rows : List (Except MarshalError (Option HostValue))} {cells : List type.storage.Cell}
    (h : List.Forall₂ (fun row cell => type.encodeRow options row = .ok cell) rows cells) :
    ∃ entries, List.Forall₂ (fun row e => ∃ v, row = .ok v ∧ StoredEntry type v e) rows entries
      ∧ ColumnData.mk type.storage (type.storage.ofCells cells) = ⟨.heap, StorageKind.ofCells .heap entries⟩ := by
  cases type <;> cases htype
  case string => exact ⟨cells, h.imp fun _ _ => storedEntry_of_encode_string, rfl⟩
  case blob => exact ⟨cells, h.imp fun _ _ => storedEntry_of_encode_blob, rfl⟩

end LogicalType

namespace Column

open StorageKind LogicalType

/-- **Entries stay and do not overlap.**  Entries that are added to a fresh heap one after the other, while its
octets have 64-bit addresses, fill it in order, without a gap and without overlapping.  Each is found at the
offset that it was given, after any number of further entries.  A column of texts or blobs has such a heap,
with an entry for each row.  So no two rows have one offset, and the entry of a row is found in every heap
that has its octets there, whatever the octets of the other rows are. -/
theorem heapEntries_tile :
    (∀ entries more : List HeapEntry, (StorageKind.ofCells .heap entries).heap.size < 2 ^ 64 →
        Tiles (StorageKind.ofCells .heap entries) entries
          ∧ ∀ (i : ℕ) (e : HeapEntry) (offset : UInt64), entries[i]? = some e →
              (StorageKind.ofCells .heap entries).offsets[i]? = some offset →
              (StorageKind.ofCells .heap (entries ++ more)).heap.entry offset.toNat = .ok e)
      ∧ ∀ (type : LogicalType) (options : MarshalOptions)
          (rows : List (Except MarshalError (Option HostValue))) (c : Column), type.storage = .heap →
          (buildForward type options rows).1 = .ok c → c.Addressable →
          ∃ (stored : HeapRows) (entries : List HeapEntry), c.data = ⟨.heap, stored⟩
            ∧ List.Forall₂ (fun row e => ∃ v, row = .ok v ∧ StoredEntry type v e) rows entries
            ∧ Tiles stored entries
            ∧ stored.offsets.toList.Nodup
            ∧ ∀ (r : ℕ) (e : HeapEntry) (offset : UInt64), entries[r]? = some e →
                stored.offsets[r]? = some offset →
                ∀ other : Heap,
                  other.bytes.extract offset.toNat (offset.toNat + (8 + e.bytes.size))
                    = stored.heap.bytes.extract offset.toNat (offset.toNat + (8 + e.bytes.size)) →
                  other.entry offset.toNat = .ok e := by
  constructor
  · intro entries more hfit
    exact ⟨tiles_ofCells hfit, fun i e offset he ho => entry_ofCells_append hfit more he ho⟩
  · intro type options rows c htype hbuilt hfit
    obtain ⟨cells, hcells, hdata⟩ := exists_cells_of_buildForward hbuilt
    obtain ⟨entries, hentries, hheap⟩ := exists_storedEntries htype hcells
    rw [hheap] at hdata
    have hroom : c.data.storage.heapSize c.data.contents < 2 ^ 64 := hfit
    rw [hdata] at hroom
    refine ⟨_, entries, hdata, hentries, tiles_ofCells hroom,
      (pairwise_offsets hroom).imp UInt64.ne_of_lt, fun r e offset he ho other hsame => ?_⟩
    refine entry_of_extract hroom he ho ?_
    rw [e.size_octets]
    exact hsame

/-- A payload that looks like the mark of a nil blob, twice, around a nil blob and an empty payload: each of
the four is found, and as rows of a column the two payloads have offsets of their own. -/
theorem heapEntries_tile_lookalike :
    let mark : ByteArray := Heap.header Heap.nilBlobCount
    let entries : List HeapEntry := [.payload mark, .nilBlob, .payload .empty, .payload mark]
    let later := (StorageKind.ofCells .heap (entries ++ [.nilBlob])).heap
    (later.entry 0 = .ok (.payload mark) ∧ later.entry 16 = .ok .nilBlob
        ∧ later.entry 24 = .ok (.payload .empty) ∧ later.entry 32 = .ok (.payload mark))
      ∧ (∃! i, HasOctet (StorageKind.ofCells .heap entries) entries i 31)
      ∧ ∃ (c : Column) (stored : HeapRows),
          (buildForward .blob {} [.ok (some (.bytes mark)), .ok none, .ok (some (.bytes mark))]).1 = .ok c
            ∧ c.data = ⟨.heap, stored⟩ ∧ stored.offsets.toList.Nodup := by
  intro mark entries later
  have hfit : (StorageKind.ofCells .heap entries).heap.size < 2 ^ 64 := by decide
  obtain ⟨htiles, hfound⟩ := heapEntries_tile.1 entries [.nilBlob] hfit
  refine ⟨⟨hfound 0 _ 0 rfl (by decide), hfound 1 _ 16 rfl (by decide), hfound 2 _ 24 rfl (by decide),
    hfound 3 _ 32 rfl (by decide)⟩, htiles.covers 31 (by decide), ?_⟩
  obtain ⟨stored, -, hdata, -, -, hdistinct, -⟩ := heapEntries_tile.2 .blob {}
    [.ok (some (.bytes mark)), .ok none, .ok (some (.bytes mark))] _ rfl rfl (by decide)
  exact ⟨_, stored, rfl, hdata, hdistinct⟩

end Column

end ColumnBridge
