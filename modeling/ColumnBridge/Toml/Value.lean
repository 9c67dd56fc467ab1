/-!
The values of TOML documents.

* `TomlValue`: what a key can hold; a table remembers how it came about, because that decides whether
  later parts of the document may add to it;
* `TomlValue.isReadable`: a value without unreadable numbers, which are well formed all the same;
* `findEntry`, `setEntry`: the entries of a table by key.
-/

namespace ColumnBridge

/-- How a table came about. -/
inductive TableOrigin
  /-- By a header of its own, or as an element of an array of tables. -/
  | header
  /-- On the way to the table of a header. -/
  | implied
  /-- On the way to the value of a dotted key. -/
  | dotted
  /-- Written in one place; nothing can be added. -/
  | inline
  deriving DecidableEq, Repr

/-- What a key can hold. Of floats and of dates the value is of no use to settings and is not kept. -/
inductive TomlValue
  | string (value : String)
  | integer (value : Int)
  | float
  /-- What counts as a number but has no value. -/
  | unreadable
  | boolean (value : Bool)
  | datetime
  /-- An array; `ofTables` if each element came about by a header. -/
  | array (ofTables : Bool) (items : List TomlValue)
  | table (origin : TableOrigin) (entries : List (String × TomlValue))
  deriving Repr

/-- How a table counts after the header of a table below it, none if it may have no such table. -/
def TableOrigin.passedByHeader : TableOrigin → Option TableOrigin
  | inline => none
  | origin => some origin

/-- How a table counts after a dotted key through it, none if it is closed to dotted keys. A table that
headers only implied is opened by dotted keys from then on. -/
def TableOrigin.passedByKey : TableOrigin → Option TableOrigin
  | implied | dotted => some dotted
  | header | inline => none

namespace TomlValue

mutual

/-- Every number inside a value can be read. -/
def isReadable : TomlValue → Bool
  | unreadable => false
  | array _ items => areReadable items
  | table _ es => haveReadable es
  | _ => true

/-- Every number inside some values can be read. -/
def areReadable : List TomlValue → Bool
  | [] => true
  | v :: vs => v.isReadable && areReadable vs

/-- Every number inside some entries can be read. -/
def haveReadable : List (String × TomlValue) → Bool
  | [] => true
  | (_, v) :: es => v.isReadable && haveReadable es

end

/-- The entries of a table, in the order in which they were written. -/
abbrev Entries := List (String × TomlValue)

/-- The value under a key. -/
def findEntry (es : Entries) (key : String) : Option TomlValue := es.lookup key

/-- Put a value under a key, in place of the old one or at the end. -/
def setEntry (key : String) (value : TomlValue) : Entries → Entries
  | [] => [(key, value)]
  | (k, v) :: es => if k = key then (key, value) :: es else (k, v) :: setEntry key value es

end TomlValue

end ColumnBridge
