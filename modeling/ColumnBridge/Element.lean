import ColumnBridge.Column

/-!
The elements of flat host arrays.

* `Element`: one kind of array for each of seven types, with the stored form of its elements
  (`Element.save`, `Element.load`), the host value that boxes one (`Element.box`) and the copying of a run
  of slots (`Element.copyRun`);
* `overwrite`: replacing a region of an array;
* `Destination`: an array that a fetch fills, either in place or by regions, and `FillM`: what a fetch
  does to it.
-/

namespace ColumnBridge

/-- A kind of flat host arrays. -/
inductive Element
  | boolean
  | byte
  | short
  | int
  | long
  | float
  | double
  deriving DecidableEq, Repr

namespace Element

/-- All kinds of flat arrays. -/
def all : List Element := [boolean, byte, short, int, long, float, double]

/-- The elements of an array. -/
@[reducible] def Carrier : Element → Type
  | boolean => Bool
  | byte => Int8
  | short => Int16
  | int => Int32
  | long => Int64
  | float => Binary .single
  | double => Binary .double

/-- The one type whose columns such arrays can carry. -/
def type : Element → LogicalType
  | boolean => .boolean
  | byte => .tinyInt
  | short => .smallInt
  | int => .int
  | long => .bigInt
  | float => .real
  | double => .double

/-- The slots that keep the elements. -/
@[reducible] def slotKind : Element → SlotKind
  | boolean => .int .w8
  | byte => .int .w8
  | short => .int .w16
  | int => .int .w32
  | long => .int .w64
  | float => .float .single
  | double => .float .double

/-- The columns of the type keep slots of this kind. -/
theorem storage_type (e : Element) : e.type.storage = .fixed e.slotKind := by
  cases e <;> rfl

/-- The slot that keeps an element. -/
def save : (e : Element) → e.Carrier → e.slotKind.Slot
  | boolean, b => if b then (1 : Int8) else 0
  | byte, x => x
  | short, x => x
  | int, x => x
  | long, x => x
  | float, x => x
  | double, x => x

/-- The element of a slot. -/
def load : (e : Element) → e.slotKind.Slot → e.Carrier
  | boolean, x => (x : Int8) != 0
  | byte, x => x
  | short, x => x
  | int, x => x
  | long, x => x
  | float, x => x
  | double, x => x

/-- The host value that boxes an element. -/
def box : (e : Element) → e.Carrier → HostValue
  | boolean, b => .boolean b
  | byte, x => .byte x
  | short, x => .short x
  | int, x => .integer x
  | long, x => .long x
  | float, x => .float x
  | double, x => .double x

/-- The element of a fresh array. -/
def blank : (e : Element) → e.Carrier
  | boolean => false
  | byte => (0 : Int8)
  | short => (0 : Int16)
  | int => (0 : Int32)
  | long => (0 : Int64)
  | float => Binary.zero .single
  | double => Binary.zero .double

/-- Load slots into elements one after the other, as long as there are both. Other elements stay. -/
def loadEach (e : Element) : List e.slotKind.Slot → List e.Carrier → List e.Carrier
  | slot :: slots, _ :: values => e.load slot :: e.loadEach slots values
  | _, values => values

/-- Copy a run of slots over as many elements: one after the other where slots are converted, and as one
block where slots are elements. -/
def copyRun : (e : Element) → Array e.slotKind.Slot → Array e.Carrier → Array e.Carrier
  | boolean, slots, values => (loadEach boolean slots.toList values.toList).toArray
  | byte, slots, _ => slots
  | short, slots, _ => slots
  | int, slots, _ => slots
  | long, slots, _ => slots
  | float, slots, _ => slots
  | double, slots, _ => slots

/-- The host class that boxes the elements. -/
def hostKind (e : Element) : HostKind := e.type.hostKind

/-- The failure of a column whose type has no such arrays. -/
def mismatch (e : Element) (type : LogicalType) : MarshalError :=
  .typeMismatch type.display s!"{e.hostKind.arrayLabel} array"

/-- What is saved is loaded again. -/
theorem load_save (e : Element) (x : e.Carrier) : e.load (e.save x) = x := by
  cases e
  case boolean => cases x <;> rfl
  all_goals rfl

end Element

/-- Replace the region of an array that begins at `start`. -/
def overwrite {α : Type} (array : Array α) (start : Nat) (region : Array α) :
    Except MarshalError (Array α) :=
  let last := start + region.size
  if last ≤ array.size then
    .ok (array.extract 0 start ++ region ++ array.extract last array.size)
  else .error (.rowOutOfRange start (min last StorageKind.maxRow) array.size)

/-- An array that a fetch fills. -/
structure Destination (e : Element) where
  values : Array e.Carrier
  /-- The array lies in memory that a fetch can write to; otherwise it takes regions alone. -/
  pinned : Bool

/-- What a fetch does to an array that it fills. A failure keeps the array that it leaves. -/
abbrev FillM (e : Element) : Type → Type := ExceptT MarshalError (StateM (Destination e))

/-- Hand a region over to an array. -/
def Destination.setRegion {e : Element} (start : Nat) (region : Array e.Carrier) : FillM e Unit := do
  let target ← get
  let values ← overwrite target.values start region
  set { target with values }

end ColumnBridge
