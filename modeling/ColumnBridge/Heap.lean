import ColumnBridge.Error

/-!
The out-of-line heap of a column of strings or blobs.

Entries stand one after the other: eight octets that count the payload, least significant first, and
then the payload. The largest count is no count but marks a nil blob without payload.

* `Heap.push`: a new entry at the end, whose offset is the size before;
* `Heap.entry`: the entry at an offset, which may be any number;
* `littleEndian`, `ofLittleEndian`: the counts, with `ofLittleEndian_littleEndian`.
-/

namespace ColumnBridge

-- plain powers, also below a library with monoids
attribute [local instance (high)] instPowNat

attribute [local instance (high)] ByteArray.instDecidableEq

/-- The `n` lowest octets of a number, least significant first. -/
def littleEndian : Nat → Nat → List UInt8
  | 0, _ => []
  | n + 1, value => UInt8.ofNat value :: littleEndian n (value / 256)

/-- The number with the given octets, least significant first. -/
def ofLittleEndian : List UInt8 → Nat
  | [] => 0
  | b :: bs => b.toNat + 256 * ofLittleEndian bs

@[simp] theorem length_littleEndian (n value : Nat) : (littleEndian n value).length = n := by
  induction n generalizing value with
  | zero => rfl
  | succ n ih => simp [littleEndian, ih]

/-- A number is read back from enough of its octets. -/
theorem ofLittleEndian_littleEndian (n value : Nat) (h : value < 256 ^ n) :
    ofLittleEndian (littleEndian n value) = value := by
  induction n generalizing value with
  | zero => simp at h; simp [littleEndian, ofLittleEndian, h]
  | succ n ih =>
    have hq : value / 256 < 256 ^ n := by
      rw [Nat.pow_succ] at h
      omega
    simp only [littleEndian, ofLittleEndian, ih _ hq, UInt8.toNat_ofNat']
    omega

/-- What an offset of a heap leads to. -/
inductive HeapEntry
  /-- The mark of a nil blob. -/
  | nilBlob
  /-- The octets of a string or of a blob. -/
  | payload (bytes : ByteArray)
  deriving DecidableEq

namespace HeapEntry

/-- The octets of an entry, none for a nil blob. -/
def bytes : HeapEntry → ByteArray
  | nilBlob => .empty
  | payload b => b

/-- The payload of a nil string: one octet that is no text. -/
def nilString : HeapEntry := .payload ⟨#[0x80]⟩

/-- The order of payloads: the first octet that differs decides, and a beginning comes first. -/
def compareBytes (a b : HeapEntry) : Ordering := compare a.bytes.data.toList b.bytes.data.toList

end HeapEntry

/-- The out-of-line heap of a column. -/
structure Heap where
  bytes : ByteArray
  deriving DecidableEq

namespace Heap

/-- The heap without entries. -/
def empty : Heap := ⟨.empty⟩

/-- The number of octets of a count. -/
def headerSize : Nat := 8

/-- The count that marks a nil blob. -/
def nilBlobCount : Nat := UInt64.size - 1

/-- The number of octets in use. -/
def size (h : Heap) : Nat := h.bytes.size

/-- The octets that count a payload. -/
def header (count : Nat) : ByteArray := ⟨(littleEndian headerSize count).toArray⟩

/-- Add an entry at the end. -/
def push (h : Heap) : HeapEntry → Heap
  | .nilBlob => ⟨h.bytes ++ header nilBlobCount⟩
  | .payload b => ⟨h.bytes ++ header b.size ++ b⟩

/-- The failure of an offset that leads to no entry. -/
def badEntry (offset : Nat) : MarshalError :=
  .valueConversion "heap" s!"bad entry at offset {offset}"

/-- The entry at an offset. The count and the payload have to lie inside the heap. -/
def entry (h : Heap) (offset : Nat) : Except MarshalError HeapEntry :=
  let body := offset + headerSize
  if h.size < body then .error (badEntry offset)
  else
    let count := ofLittleEndian (h.bytes.extract offset body).data.toList
    if count = nilBlobCount then .ok .nilBlob
    else if h.size < body + count then .error (badEntry offset)
    else .ok (.payload (h.bytes.extract body (body + count)))

end Heap

end ColumnBridge
