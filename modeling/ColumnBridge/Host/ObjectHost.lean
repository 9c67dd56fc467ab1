import ColumnBridge.Error
import ColumnBridge.Host.Value

/-!
The host that boxes values into objects.

A host finds classes by kind and makes objects of a class. This one keeps its objects as the values
themselves, counts what it hands out, and can be told to fail.

* `ObjectHost.resolve`, `ObjectHost.release`: one class found, one class given back;
* `ObjectHost.construct`, `ObjectHost.extract`: a value boxed and unboxed;
* `HostContext.resolveAll`: all classes at once, or none of them; `HostContext.teardown` gives them back.
-/

namespace ColumnBridge

/-- A host of boxed objects. -/
structure ObjectHost where
  /-- Classes found and not yet given back. -/
  liveClasses : Nat := 0
  /-- Objects made. -/
  constructed : Nat := 0
  /-- A class that the host does not have. -/
  missing : Option HostKind := none
  /-- How many objects can be made. -/
  limit : Option Nat := none
  deriving DecidableEq, Repr

namespace ObjectHost

/-- Find a class. -/
def resolve (host : ObjectHost) (kind : HostKind) : Except MarshalError HostKind × ObjectHost :=
  if host.missing = some kind then
    (.error (.host s!"class {kind.className} not found"), host)
  else (.ok kind, { host with liveClasses := host.liveClasses + 1 })

/-- Give a class back. -/
def release (host : ObjectHost) (_ : HostKind) : ObjectHost :=
  { host with liveClasses := host.liveClasses - 1 }

/-- The host has made as many objects as it can. -/
def isExhausted (host : ObjectHost) : Bool := host.limit.any (· ≤ host.constructed)

/-- Box a value in an object of a class. -/
def construct (host : ObjectHost) (cls : HostKind) (value : HostValue) :
    Except MarshalError HostValue × ObjectHost :=
  if host.isExhausted then (.error (.host s!"could not construct {cls.className}"), host)
  else if value.kind ≠ cls then
    (.error (.typeMismatch cls.className value.kind.className), host)
  else (.ok value, { host with constructed := host.constructed + 1 })

/-- Unbox an object. -/
def extract (_ : ObjectHost) (object : HostValue) : Except MarshalError HostValue := .ok object

end ObjectHost

/-- The classes of a host, found once and kept. -/
structure HostContext where
  /-- The classes in the order of `HostKind.all`. -/
  classes : List HostKind
  deriving DecidableEq, Repr

namespace HostContext

/-- Give back the classes found so far, the last one first. -/
def releaseAll (host : ObjectHost) (classes : List HostKind) : ObjectHost :=
  classes.reverse.foldl ObjectHost.release host

/-- Find the classes of `kinds` after `found`; at the first failure give back all of them. -/
def resolveFrom (host : ObjectHost) (found : List HostKind) :
    List HostKind → Except MarshalError HostContext × ObjectHost
  | [] => (.ok ⟨found⟩, host)
  | kind :: kinds =>
    match host.resolve kind with
    | (.ok cls, host) => resolveFrom host (found ++ [cls]) kinds
    | (.error e, host) => (.error e, releaseAll host found)

/-- Find all classes. -/
def resolveAll (host : ObjectHost) : Except MarshalError HostContext × ObjectHost :=
  resolveFrom host [] HostKind.all

/-- The class for a kind. -/
def classOf (context : HostContext) (kind : HostKind) : Except MarshalError HostKind :=
  match context.classes[kind.index]? with
  | some cls => .ok cls
  | none => .error (.host s!"class {kind.className} not resolved")

/-- Give all classes back. -/
def teardown (context : HostContext) (host : ObjectHost) : ObjectHost :=
  releaseAll host context.classes

end HostContext

end ColumnBridge
