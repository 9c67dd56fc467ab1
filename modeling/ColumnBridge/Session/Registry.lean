import ColumnBridge.Ledger
import ColumnBridge.Session.Database
import ColumnBridge.Session.Table

/-!
Objects of the session layer, kept by name.

A program that cannot hold the objects itself keeps them here and names them. An object gives back what
it holds when nobody keeps it any more.

* `SessionObject`: an object of any type, and `SessionObject.drop`: what it gives back;
* `Keepable`: the types of objects, each with a kind under which names are given;
* `Registry.find`, `Registry.remove`, `Registry.put`: a name looked up, forgotten and given.
-/

namespace ColumnBridge

/-- An object of the session layer. -/
inductive SessionObject
  | database (db : Database)
  | connection (c : Connection)
  | resultSet (rs : ResultSet)
  | statement (p : PreparedStatement)
  | table (t : Table)
  | output (o : QueryOutput)
  | guard (g : ColumnGuard)

/-- Give back what an object holds. -/
def SessionObject.drop {σ : Type} [StorageEngine σ] : SessionObject → SessionM σ Unit
  | resultSet rs => rs.drop
  | statement p => p.parameters.drop
  | guard g => SessionM.quietly g.release
  | _ => pure ()

/-- A type of objects. -/
class Keepable (α : Type) where
  /-- The kind of the objects; the same name may stand for objects of several kinds. -/
  kind : String
  wrap : α → SessionObject
  unwrap : SessionObject → Option α

instance : Keepable Database where
  kind := "db"
  wrap := .database
  unwrap
    | .database db => some db
    | _ => none

instance : Keepable Connection where
  kind := "conn"
  wrap := .connection
  unwrap
    | .connection c => some c
    | _ => none

instance : Keepable ResultSet where
  kind := "rs"
  wrap := .resultSet
  unwrap
    | .resultSet rs => some rs
    | _ => none

instance : Keepable PreparedStatement where
  kind := "statement"
  wrap := .statement
  unwrap
    | .statement p => some p
    | _ => none

instance : Keepable Table where
  kind := "table"
  wrap := .table
  unwrap
    | .table t => some t
    | _ => none

instance : Keepable QueryOutput where
  kind := "output"
  wrap := .output
  unwrap
    | .output o => some o
    | _ => none

instance : Keepable ColumnGuard where
  kind := "guard"
  wrap := .guard
  unwrap
    | .guard g => some g
    | _ => none

/-- Objects by their kinds and names. -/
structure Registry where
  objects : Ledger (String × String) SessionObject := .empty

namespace Registry

variable {α : Type} [Keepable α]

/-- The object of a type under a name. -/
def find (r : Registry) (name : String) : Option α :=
  (r.objects.get (Keepable.kind α, name)).bind Keepable.unwrap

/-- The registry without the object of a type under a name. The object keeps what it holds. -/
def remove (α : Type) [Keepable α] (r : Registry) (name : String) : Registry :=
  ⟨r.objects.erase (Keepable.kind α, name)⟩

/-- Keep an object under a name. One that had the name is dropped. -/
def put {σ : Type} [StorageEngine σ] (r : Registry) (name : String) (a : α) :
    SessionM σ Registry := do
  let key := (Keepable.kind α, name)
  ((r.objects.get key).map SessionObject.drop).getD (pure ())
  return ⟨r.objects.insert key (Keepable.wrap a)⟩

end Registry

end ColumnBridge
