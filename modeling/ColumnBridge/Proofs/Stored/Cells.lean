import ColumnBridge.Storage
import Mathlib.Tactic

/-!
Rows that are stored one after the other, and what reading a row gives back.

* **The heap.** `Heap.entry_of_octets`: an entry is found wherever its octets stand, so
  `Heap.entry_push_self`: a new entry is found at the size the heap had before, and
  `Heap.entry_push_of_ok`: an entry that was found stays where it is.  The only condition is that the
  heap keeps 64-bit addresses, since a count of all ones marks a nil blob.
* **The rows.** `StorageKind.cell_ofCells`: row `i` of stored cells is cell `i`, for slots and for heap
  entries, and `StorageKind.rowCount_ofCells`: no row is lost or added.
-/

namespace ColumnBridge

/-! ### Entries of a heap -/

/-- The octets that an entry takes: the count and the payload. -/
def HeapEntry.octets : HeapEntry → ByteArray
  | .nilBlob => Heap.header Heap.nilBlobCount
  | .payload b => Heap.header b.size ++ b

@[simp] lemma Heap.size_header (count : ℕ) : (header count).size = headerSize := by
  rw [header, ← ByteArray.size_data, List.size_toArray, length_littleEndian]

/-- An entry takes the octets of its count and those of its payload. -/
lemma HeapEntry.size_octets (e : HeapEntry) : e.octets.size = Heap.headerSize + e.bytes.size := by
  cases e with
  | nilBlob => exact Heap.size_header Heap.nilBlobCount
  | payload b => rw [octets, ByteArray.size_append, Heap.size_header, bytes]

namespace Heap

/-- The count of an entry is read back from its eight octets. -/
lemma ofLittleEndian_header {count : ℕ} (h : count < 2 ^ 64) :
    ofLittleEndian (header count).data.toList = count :=
  ofLittleEndian_littleEndian headerSize count (by simpa [headerSize] using h)

lemma bytes_push (h : Heap) (e : HeapEntry) : (h.push e).bytes = h.bytes ++ e.octets := by
  cases e with
  | nilBlob => rfl
  | payload b => rw [push, HeapEntry.octets, ByteArray.append_assoc]

@[simp] lemma size_push (h : Heap) (e : HeapEntry) :
    (h.push e).size = h.size + e.octets.size := by
  rw [size, bytes_push, ByteArray.size_append, size]

/-- What stands in front of the end of octets is not changed by more of them. -/
lemma extract_append_of_le {a b : ByteArray} {i j : ℕ} (h : j ≤ a.size) :
    (a ++ b).extract i j = a.extract i j := by
  have hempty : b.extract (i - a.size) (j - a.size) = ByteArray.empty := by
    rw [ByteArray.extract_eq_empty_iff]; omega
  rw [ByteArray.extract_append, hempty, ByteArray.append_empty]

/-- An entry that was found stays where it is while octets are added behind it. -/
lemma entry_append_of_ok {h : Heap} {offset : ℕ} {e : HeapEntry} (more : ByteArray)
    (he : h.entry offset = .ok e) : (Heap.mk (h.bytes ++ more)).entry offset = .ok e := by
  have hsize : (Heap.mk (h.bytes ++ more)).size = h.size + more.size := ByteArray.size_append
  rw [entry] at he ⊢
  dsimp only at he ⊢
  split at he
  · cases he
  · next hbody =>
    rw [if_neg (by omega), extract_append_of_le (Nat.le_of_not_lt hbody)]
    split at he
    · next hnil => rw [if_pos hnil]; exact he
    · next hnil =>
      rw [if_neg hnil]
      split at he
      · cases he
      · next hend =>
        rw [if_neg (by omega), extract_append_of_le (Nat.le_of_not_lt hend)]
        exact he

/-- An entry that was found stays where it is when another one is added. -/
lemma entry_push_of_ok {h : Heap} {offset : ℕ} {e : HeapEntry} (new : HeapEntry)
    (he : h.entry offset = .ok e) : (h.push new).entry offset = .ok e := by
  have := entry_append_of_ok new.octets he
  rwa [← bytes_push] at this

/-- An entry is found wherever its octets stand, whatever stands around them. -/
lemma entry_of_octets {h : Heap} {offset : ℕ} {e : HeapEntry} (hfit : e.octets.size < 2 ^ 64)
    (hstands : h.bytes.extract offset (offset + e.octets.size) = e.octets) :
    h.entry offset = .ok e := by
  have hsize := e.size_octets
  have hend : offset + (headerSize + e.bytes.size) ≤ h.size := by
    have hextract := congrArg ByteArray.size hstands
    rw [ByteArray.size_extract, hsize] at hextract
    simp only [size, headerSize] at hextract ⊢
    omega
  -- what is read of the heap is read of the octets of the entry
  have hpart : ∀ i j, j ≤ e.octets.size →
      h.bytes.extract (offset + i) (offset + j) = e.octets.extract i j := by
    intro i j hj
    rw [← hstands, ByteArray.extract_extract, min_eq_left (Nat.add_le_add_left hj offset)]
  have hcount : h.bytes.extract offset (offset + headerSize) = e.octets.extract 0 headerSize :=
    hpart 0 headerSize (hsize ▸ Nat.le_add_right ..)
  rw [entry]
  dsimp only
  rw [if_neg (by omega), hcount]
  cases e with
  | nilBlob =>
    have hmark : (HeapEntry.octets .nilBlob).extract 0 headerSize = header nilBlobCount :=
      ByteArray.extract_zero_size
    rw [hmark, ofLittleEndian_header (by decide), if_pos rfl]
  | payload b =>
    have hnumber : (HeapEntry.octets (.payload b)).extract 0 headerSize = header b.size :=
      ByteArray.extract_append_eq_left (size_header b.size).symm
    have hpayload : h.bytes.extract (offset + headerSize) (offset + headerSize + b.size) = b := by
      rw [Nat.add_assoc, hpart headerSize (headerSize + b.size) hsize.ge]
      exact ByteArray.extract_append_eq_right (size_header b.size).symm (by rw [size_header])
    rw [hsize] at hfit
    simp only [HeapEntry.bytes, headerSize] at hfit hend
    have hnil : b.size ≠ nilBlobCount := by
      simp only [nilBlobCount, UInt64.size]
      omega
    have hroom : ¬ h.size < offset + headerSize + b.size := by
      simp only [headerSize]
      omega
    rw [hnumber, ofLittleEndian_header (by omega), if_neg hnil, if_neg hroom, hpayload]

/-- A new entry is found at the size that the heap had before. -/
lemma entry_push_self (h : Heap) (e : HeapEntry) (hfit : (h.push e).size < 2 ^ 64) :
    (h.push e).entry h.size = .ok e := by
  rw [size_push] at hfit
  refine entry_of_octets ((Nat.le_add_left ..).trans_lt hfit) ?_
  rw [bytes_push]
  exact ByteArray.extract_append_eq_right rfl rfl

end Heap

/-! ### Stored rows -/

namespace StorageKind

/-- The octets of the heap of stored rows, none where rows are slots. -/
def heapSize : (s : StorageKind) → s.Contents → ℕ
  | fixed _, _ => 0
  | heap, rows => rows.heap.size

/-- Rows of a heap are added at the end. -/
lemma ofCells_heap_append (cells : List HeapEntry) (e : HeapEntry) :
    ofCells heap (cells ++ [e]) = HeapRows.push (ofCells heap cells) e :=
  List.foldl_concat ..

/-- No row is lost or added. -/
@[simp] lemma rowCount_ofCells (s : StorageKind) (cells : List s.Cell) :
    s.rowCount (s.ofCells cells) = cells.length := by
  cases s with
  | fixed k => exact List.size_toArray
  | heap =>
    induction cells using List.reverseRecOn with
    | nil => rfl
    | append_singleton cells e ih =>
      simp only [rowCount] at ih ⊢
      rw [ofCells_heap_append, HeapRows.push, Array.size_push, ih, List.length_append,
        List.length_singleton]

/-- A row that can be looked at is one of the rows. -/
lemma lt_rowCount_of_cell_eq_ok {s : StorageKind} {rows : s.Contents} {row : ℕ} {c : s.Cell}
    (h : s.cell rows row = .ok c) : row < s.rowCount rows := by
  by_contra hrow
  cases s with
  | fixed k =>
    have hnone : (rows : Array k.Slot)[row]? = none := Array.getElem?_eq_none (Nat.not_lt.mp hrow)
    simp only [cell, hnone] at h
    cases h
  | heap =>
    have hnone : rows.offsets[row]? = none := Array.getElem?_eq_none (Nat.not_lt.mp hrow)
    simp only [cell, hnone] at h
    cases h

/-- A row of a heap is the entry that was stored there. -/
lemma entry_ofCells {cells : List HeapEntry} (hfit : (ofCells heap cells).heap.size < 2 ^ 64) {i : ℕ}
    {e : HeapEntry} (hi : cells[i]? = some e) : cell heap (ofCells heap cells) i = .ok e := by
  induction cells using List.reverseRecOn with
  | nil => cases hi
  | append_singleton cells last ih =>
    rw [ofCells_heap_append] at hfit ⊢
    set rows : HeapRows := ofCells heap cells with hrows
    have hcount : rows.offsets.size = cells.length := rowCount_ofCells heap cells
    have hold : rows.heap.size < 2 ^ 64 := by
      simp only [HeapRows.push, Heap.size_push] at hfit
      omega
    simp only [cell, HeapRows.push] at hfit ⊢
    rcases Nat.lt_or_ge i cells.length with hlt | hge
    · -- an earlier row: its entry was found before, and stays
      rw [List.getElem?_append_left hlt] at hi
      have hprev := ih hold hi
      simp only [cell] at hprev
      rw [Array.getElem?_eq_getElem (hcount ▸ hlt)] at hprev
      rw [Array.getElem?_push_lt (hcount ▸ hlt)]
      exact Heap.entry_push_of_ok last hprev
    · -- the new row: its offset is the size that the heap had
      rw [List.getElem?_append_right hge, List.getElem?_singleton] at hi
      split at hi
      · next hlast =>
        have hrow : i = rows.offsets.size := by omega
        cases hi
        rw [hrow, Array.getElem?_push_size]
        simp only [UInt64.toNat_ofNat_of_lt' hold]
        exact Heap.entry_push_self rows.heap _ hfit
      · cases hi

/-- A row is the cell that was stored there. -/
lemma cell_ofCells {s : StorageKind} {cells : List s.Cell}
    (hfit : s.heapSize (s.ofCells cells) < 2 ^ 64) {i : ℕ} {c : s.Cell} (hi : cells[i]? = some c) :
    s.cell (s.ofCells cells) i = .ok c := by
  cases s with
  | fixed k =>
    have hget : (List.toArray cells)[i]? = some c := by
      rw [List.getElem?_toArray, hi]
    simp only [cell, ofCells, hget]
  | heap => exact entry_ofCells hfit hi

end StorageKind

end ColumnBridge
