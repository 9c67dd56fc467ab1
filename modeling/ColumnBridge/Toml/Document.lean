import ColumnBridge.Toml.Scalar
import ColumnBridge.Toml.Table

/-!
TOML documents.

* `readKey`, `readValue`: a dotted key and a value at the front of a text;
* `Statement`: one line of a document, and `readStatements` for all of them;
* `TomlValue.ofDocument`: the entries that a document defines, none if it is not well formed.
-/

namespace ColumnBridge.Toml

open TomlValue

/-! ### Keys -/

/-- A character of a key without quotes. -/
def isKeyChar (c : Char) : Bool := c.isAlphanum || c == '-' || c == '_'

/-- One part of a key. -/
def readKeyPart (cs : List Char) : Option (String × List Char) :=
  match cs with
  | '"' :: '"' :: '"' :: _ => none
  | '\'' :: '\'' :: '\'' :: _ => none
  | '"' :: _ => readQuoted cs
  | '\'' :: _ => readQuoted cs
  | _ =>
    let word := cs.takeWhile isKeyChar
    if word.isEmpty then none else some (String.ofList word, cs.dropWhile isKeyChar)

/-- How far a document may nest: the parts of a dotted key, and the brackets around a value. -/
def maxNesting : Nat := 80

/-- At most `n` parts of a dotted key, with spaces allowed around them. -/
def readKeyParts : Nat → List Char → Option (List String × List Char)
  | 0, _ => none
  | n + 1, cs => do
    let (part, rest) ← readKeyPart (skipSpace cs)
    match skipSpace rest with
    | '.' :: rest =>
      let (parts, rest) ← readKeyParts n rest
      return (part :: parts, rest)
    | rest => return ([part], rest)

/-- A dotted key with the spaces around it. -/
def readKey (cs : List Char) : Option (List String × List Char) := readKeyParts maxNesting cs

/-! ### Values -/

mutual

/-- A value inside of which brackets may nest to a given depth; `fuel` bounds the number of steps. -/
def readValueWithin : Nat → Nat → List Char → Option (TomlValue × List Char)
  | 0, _, _ => none
  | fuel + 1, depth, cs =>
    match cs, depth with
    | '[' :: _, 0 => none
    | '{' :: _, 0 => none
    | '[' :: rest, depth + 1 => do
      let (items, rest) ← readItems fuel depth rest
      return (.array false items, rest)
    | '{' :: rest, depth + 1 => do
      let (es, rest) ← readFields fuel depth rest []
      return (.table .inline es, rest)
    | '"' :: _, _ => (readQuoted cs).map fun r => (.string r.1, r.2)
    | '\'' :: _, _ => (readQuoted cs).map fun r => (.string r.1, r.2)
    | _, _ => readScalar cs

/-- The rest of an array. -/
def readItems : Nat → Nat → List Char → Option (List TomlValue × List Char)
  | 0, _, _ => none
  | fuel + 1, depth, cs => do
    match ← skipBlank false cs with
    | ']' :: rest => return ([], rest)
    | cs =>
      let (item, rest) ← readValueWithin fuel depth cs
      match ← skipBlank false rest with
      | ',' :: rest =>
        let (items, rest) ← readItems fuel depth rest
        return (item :: items, rest)
      | ']' :: rest => return ([item], rest)
      | _ => none

/-- The rest of a table that is written in one place, after the entries read so far. Lines may end
everywhere but inside a key. -/
def readFields : Nat → Nat → List Char → Entries → Option (Entries × List Char)
  | 0, _, _, _ => none
  | fuel + 1, depth, cs, es => do
    match ← skipBlank false cs with
    | '}' :: rest => return (es, rest)
    | cs =>
      let (key, rest) ← readKey cs
      let rest ← takeChar '=' (← skipBlank false rest)
      let (value, rest) ← readValueWithin fuel depth (← skipBlank false rest)
      let es ← assign value key es
      match ← skipBlank false rest with
      | ',' :: rest => readFields fuel depth rest es
      | '}' :: rest => return (es, rest)
      | _ => none

end

/-- A value at the front of a text. A step reads a character, or is followed by one that does. -/
def readValue (cs : List Char) : Option (TomlValue × List Char) :=
  readValueWithin (2 * cs.length + 2) maxNesting cs

/-! ### Statements -/

/-- One line of a document. -/
inductive Statement
  | empty
  /-- The header of a table. -/
  | header (path : List String)
  /-- The header of an element of an array of tables. -/
  | element (path : List String)
  | assign (key : List String) (value : TomlValue)
  deriving Repr

/-- The text of one line of a document, up to what may follow it there. -/
def readStatement (cs : List Char) : Option (Statement × List Char) :=
  match cs with
  | '[' :: '[' :: rest => do
    let (path, rest) ← readKey rest
    let rest ← takeChar ']' (← takeChar ']' rest)
    return (.element path, rest)
  | '[' :: rest => do
    let (path, rest) ← readKey rest
    return (.header path, ← takeChar ']' rest)
  | [] => some (.empty, [])
  | c :: _ =>
    if c = '#' || (newline cs).isSome then some (.empty, cs)
    else do
      let (key, rest) ← readKey cs
      let (value, rest) ← readValue (skipSpace (← takeChar '=' rest))
      return (.assign key value, rest)

/-- The end of a line, with an optional comment before it. -/
def endLine (cs : List Char) : Option (List Char) := do
  let rest ← match skipSpace cs with
    | '#' :: rest => skipComment rest
    | rest => some rest
  match rest with
  | [] => some []
  | _ => newline rest

/-- The statements of a document of at most `fuel` lines. -/
def readStatementsWithin : Nat → List Char → Option (List Statement)
  | 0, _ => none
  | fuel + 1, cs => do
    let (statement, rest) ← readStatement (skipSpace cs)
    match ← endLine rest with
    | [] => return [statement]
    | rest => return statement :: (← readStatementsWithin fuel rest)

/-- The mark of the byte order, which may stand in front of a document. -/
def byteOrderMark : Char := '\ufeff'

/-- The statements of a document. -/
def readStatements (cs : List Char) : Option (List Statement) :=
  let body := match cs with
    | c :: rest => if c = byteOrderMark then rest else cs
    | [] => []
  readStatementsWithin (body.length + 1) body

/-! ### Documents -/

/-- The entries of a document so far, and the path of the last header. -/
structure Draft where
  header : List String := []
  entries : Entries := []

/-- Take a statement in. -/
def Draft.add (d : Draft) : Statement → Option Draft
  | .empty => some d
  | .header path => do
    let last ← path.getLast?
    return ⟨path, ← within (openTable last) path.dropLast d.entries⟩
  | .element path => do
    let last ← path.getLast?
    return ⟨path, ← within (openElement last) path.dropLast d.entries⟩
  | .assign key value => do
    return { d with entries := ← within (Toml.assign value key) d.header d.entries }

end ColumnBridge.Toml

namespace ColumnBridge

/-- The entries that a TOML document defines. -/
def TomlValue.ofDocument (text : String) : Option TomlValue.Entries := do
  let statements ← Toml.readStatements text.toList
  let draft ← statements.foldlM Toml.Draft.add {}
  return draft.entries

end ColumnBridge
