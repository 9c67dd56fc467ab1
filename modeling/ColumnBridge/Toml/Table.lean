import ColumnBridge.Toml.Value

/-!
Putting the tables of a TOML document together.

Each key is defined once. A header may name a table that other headers implied before; a dotted key may
add to tables that have no header of their own, which no header may name then; nothing may add to a table
that is written in one place.

* `assign`: a value under a dotted key of a table;
* `openTable`, `openElement`: the table of a header, and a new element of an array of tables;
* `within`: a change to the table of a path, where every array of tables stands for its last element.
-/

namespace ColumnBridge.Toml

open TomlValue

/-- Change the last element of an array, if it is a table. -/
def changeLast (f : Entries → Option Entries) : List TomlValue → Option (List TomlValue)
  | [] => none
  | [.table origin es] => (f es).map fun es => [.table origin es]
  | v :: vs => (changeLast f vs).map (v :: ·)

/-- Change the table under a key, which is made with the given origin if it is not there. `passed` says
which tables may be changed, and how they count afterwards. -/
def changeUnder (key : String) (origin : TableOrigin) (passed : TableOrigin → Option TableOrigin)
    (f : Entries → Option Entries) (es : Entries) : Option Entries :=
  match findEntry es key with
  | none => (f []).map fun sub => setEntry key (.table origin sub) es
  | some (.table old sub) => do
    let new ← passed old
    return setEntry key (.table new (← f sub)) es
  | some (.array true items) =>
    (changeLast f items).map fun items => setEntry key (.array true items) es
  | some _ => none

/-- Change the table at the end of a path of a header. -/
def within (f : Entries → Option Entries) : List String → Entries → Option Entries
  | [], es => f es
  | key :: path, es => changeUnder key .implied TableOrigin.passedByHeader (within f path) es

/-- Give a key its one value. -/
def define (key : String) (value : TomlValue) (es : Entries) : Option Entries :=
  match findEntry es key with
  | none => some (setEntry key value es)
  | some _ => none

/-- Whether a key holds an array. -/
def holdsArray (es : Entries) (key : String) : Bool :=
  match findEntry es key with
  | some (.array _ _) => true
  | _ => false

/-- Give a dotted key its one value. Tables of headers cannot be reached, and an element of an array of
tables can only be passed through. -/
def assign (value : TomlValue) : List String → Entries → Option Entries
  | [], _ => none
  | [key], es => define key value es
  | key :: path, es =>
    if path.length = 1 && holdsArray es key then none
    else changeUnder key .dotted TableOrigin.passedByKey (assign value path) es

/-- The table of a header, which only other headers may have implied before. -/
def openTable (key : String) (es : Entries) : Option Entries :=
  match findEntry es key with
  | none => some (setEntry key (.table .header []) es)
  | some (.table .implied sub) => some (setEntry key (.table .header sub) es)
  | some _ => none

/-- A new element of an array of tables. -/
def openElement (key : String) (es : Entries) : Option Entries :=
  match findEntry es key with
  | none => some (setEntry key (.array true [.table .header []]) es)
  | some (.array true items) =>
    some (setEntry key (.array true (items ++ [.table .header []])) es)
  | some _ => none

end ColumnBridge.Toml
