import ColumnBridge.Settings.Environment
import ColumnBridge.Text.Utf8

/-!
Finding and loading settings.

What the text of a file says is told by a reader, which is handed over.

* `FileTree`: the files below the working directory, by the names on their paths;
* `SettingsReader`: makes settings of the text of a file, or none;
* `SettingsDraft.ofFile`: the draft of one file and the environment over it;
* `SettingsDraft.find`: the same for the first file that is there among the usual places.
-/

namespace ColumnBridge

/-- Files below the working directory, by the names on their paths. -/
structure FileTree where
  files : List (List String × ByteArray)

namespace FileTree

/-- Whether some names lead to a directory. -/
def isDirectory (tree : FileTree) (path : List String) : Bool :=
  tree.files.any fun f => path.isPrefixOf f.1 && path.length < f.1.length

/-- Walk from a directory along the names of a path. Only directories can be walked through, and nothing
above the working directory is known. -/
def walk (tree : FileTree) (place : List String) : List String → Option (List String)
  | [] => some place
  | name :: rest =>
    if name = "" || name = "." then
      if tree.isDirectory place || place = [] then tree.walk place rest else none
    else if name = ".." then
      if place = [] then none
      else if tree.isDirectory place then tree.walk place.dropLast rest else none
    else if tree.isDirectory place || place = [] then tree.walk (place ++ [name]) rest
    else none

/-- The contents of the file at a path, which does not begin at the root. -/
def read (tree : FileTree) (path : String) : Option ByteArray :=
  if path.startsWith "/" then none
  else do tree.files.lookup (← tree.walk [] (path.splitOn "/"))

end FileTree

/-- The settings that the text of a file sets, or none if no sense can be made of it. -/
abbrev SettingsReader : Type := String → Option SettingsFile

namespace SettingsDraft

variable (reader : SettingsReader)

/-- The failure to read a file. -/
def cannotRead (path reason : String) : SessionError :=
  .config s!"Failed to read config file {path}: {reason}"

/-- The failure to make sense of a file. -/
def cannotParse (path : String) : SessionError :=
  .config s!"Failed to parse config file {path}"

/-- A draft with the settings of a file. -/
def withFile (d : SettingsDraft) (tree : FileTree) (path : String) :
    Except SessionError SettingsDraft :=
  match tree.read path with
  | none => .error (cannotRead path "No such file or directory (os error 2)")
  | some bytes =>
    match Text.Utf8.decode bytes with
    | .error _ => .error (cannotRead path "stream did not contain valid UTF-8")
    | .ok text =>
      match reader text with
      | none => .error (cannotParse path)
      | some file => file.apply d

/-- The draft of one file and the environment over it. -/
def ofFile (tree : FileTree) (env : Environment) (path : String) :
    Except SessionError SettingsDraft := do
  env.apply (← withFile reader {} tree path)

/-- The places where a settings file may lie, the first one first. Without a home directory there is
no place below it. -/
def usualPlaces (env : Environment) : List String :=
  ["./monetdb-embedded.toml"] ++
    ((env "HOME").map fun home => home ++ "/.config/monetdb-embedded/config.toml").toList ++
    ["/etc/monetdb-embedded/config.toml"]

/-- The draft of the first settings file that is there, if one is, and the environment over it. -/
def find (tree : FileTree) (env : Environment) : Except SessionError SettingsDraft := do
  match (usualPlaces env).find? fun path => (tree.read path).isSome with
  | none => env.apply {}
  | some path => ofFile reader tree env path

end SettingsDraft

end ColumnBridge
