import ColumnBridge.Column.Read
import ColumnBridge.Element
import ColumnBridge.Host.ObjectHost

/-!
Fetching rows into host objects and flat arrays.

* `Column.fetchScalar`: one row as an object;
* `Column.fetchObjects`: a range of rows as objects; what was written before a failure stays written;
* `Column.fillFlat`: a range of rows into a flat array, in place or as one region, and `Column.fetchFlat`:
  the array that this leaves.
-/

namespace ColumnBridge

/-- What is left of a fetch into an array of objects. -/
structure FetchOutcome where
  result : Except (Halt MarshalError) Unit
  /-- The array afterwards. -/
  out : List (Option HostValue)
  host : ObjectHost

namespace Column

/-- Box a value in the class of a kind; no value needs no object. -/
def boxValue (host : ObjectHost) (context : HostContext) (kind : HostKind) :
    Option HostValue → Except MarshalError (Option HostValue) × ObjectHost
  | none => (.ok none, host)
  | some value =>
    match context.classOf kind with
    | .error e => (.error e, host)
    | .ok cls =>
      let (object, host) := host.construct cls value
      (object.map some, host)

/-- One row as an object, none for nil. -/
def fetchScalar (c : Column) (host : ObjectHost) (context : HostContext) (options : MarshalOptions)
    (row : Nat) : Except (Halt MarshalError) (Option HostValue) × ObjectHost :=
  match c.read options row with
  | .error e => (.error e, host)
  | .ok value =>
    let boxed := boxValue host context c.type.hostKind value
    (Halt.lift boxed.1, boxed.2)

/-- Fill the entries of `out` with the objects of the rows from `row` on, up to the first failure. -/
def fillObjects (value : Nat → Except (Halt MarshalError) (Option HostValue)) (cls : HostKind)
    (host : ObjectHost) (row : Nat) : List (Option HostValue) → FetchOutcome
  | [] => ⟨.ok (), [], host⟩
  | entry :: rest =>
    match value row with
    | .error e => ⟨.error e, entry :: rest, host⟩
    | .ok none =>
      let tail := fillObjects value cls host (row + 1) rest
      { tail with out := none :: tail.out }
    | .ok (some v) =>
      match host.construct cls v with
      | (.error e, host) => ⟨.error (.failure e), entry :: rest, host⟩
      | (.ok object, host) =>
        let tail := fillObjects value cls host (row + 1) rest
        { tail with out := some object :: tail.out }

/-- The rows from `first` on as objects, one for each entry of `out`. A column that is flagged as
without nil is not searched for it. -/
def fetchObjects (c : Column) (host : ObjectHost) (context : HostContext) (options : MarshalOptions)
    (first : Nat) (out : List (Option HostValue)) : FetchOutcome :=
  match c.window first out.length, context.classOf c.type.hostKind with
  | .error e, _ => ⟨.error (.failure e), out, host⟩
  | .ok _, .error e => ⟨.error (.failure e), out, host⟩
  | .ok _, .ok cls =>
    let value := fun row =>
      if c.flags.nonNil then (c.decode options row).map some else c.read options row
    fillObjects value cls host first out

/-- The slots of `size` rows from `first` on, if the column carries the elements. -/
def slotRun (c : Column) (e : Element) (first size : Nat) :
    Except MarshalError (Array e.slotKind.Slot) :=
  if c.type ≠ e.type then .error (e.mismatch c.type)
  else do
    let rows ← c.window first size
    let slots ← c.slots e.slotKind
    return slots.extract rows.first rows.last

/-- Fill the first `size` elements of an array with the rows from `first` on. Where the array is pinned, the
slots are copied into it; elsewhere they are copied into an array of their own, which is handed over as one
region. -/
def fillFlat (c : Column) (e : Element) (first size : Nat) : FillM e Unit := do
  let slots ← c.slotRun e first size
  let target ← get
  if target.values.size < size then throw (.rowOutOfRange 0 size target.values.size)
  else if target.pinned then
    let view := e.copyRun slots (target.values.extract 0 size)
    set { target with values := view ++ target.values.extract size target.values.size }
  else
    let staging := e.copyRun slots (Array.replicate size e.blank)
    Destination.setRegion 0 staging

/-- A flat array with the rows from `first` on as its first `size` elements. -/
def fetchFlat (c : Column) {e : Element} (first size : Nat) (target : Destination e) :
    Except MarshalError (Destination e) :=
  match c.fillFlat e first size target with
  | (.ok _, filled) => .ok filled
  | (.error failure, _) => .error failure

end Column

end ColumnBridge
