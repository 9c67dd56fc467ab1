/-!
Characters, comments and strings of TOML documents.

A string is read in two steps: first the text between the quotes, with every escaped character taken
along, and then the characters that the escapes stand for.

* `skipComment`, `skipBlank`: what separates the parts of a document;
* `readQuoted`: a string of one of the four forms at the front of a text.
-/

namespace ColumnBridge.Toml

/-- A space or a tab. -/
def isSpace (c : Char) : Bool := c == ' ' || c == '\t'

/-- A character that may stand in comments and strings: no control character but the tab. -/
def isPlain (c : Char) : Bool := c == '\t' || (0x20 ≤ c.toNat && c.toNat != 0x7F)

/-- Leave spaces and tabs out. -/
def skipSpace (cs : List Char) : List Char := cs.dropWhile isSpace

/-- One end of a line. -/
def newline : List Char → Option (List Char)
  | '\n' :: rest => some rest
  | '\r' :: '\n' :: rest => some rest
  | _ => none

/-- The rest of a comment up to the end of its line, which is left. -/
def skipComment : List Char → Option (List Char)
  | [] => some []
  | '\n' :: rest => some ('\n' :: rest)
  | '\r' :: '\n' :: rest => some ('\r' :: '\n' :: rest)
  | c :: rest => if isPlain c then skipComment rest else none

/-- Leave spaces, ends of lines and comments out; `inComment` says whether the text begins inside one. -/
def skipBlank (inComment : Bool) : List Char → Option (List Char)
  | [] => some []
  | '\n' :: rest => skipBlank false rest
  | '\r' :: '\n' :: rest => skipBlank false rest
  | c :: rest =>
    if inComment then if isPlain c then skipBlank true rest else none
    else if isSpace c then skipBlank false rest
    else if c = '#' then skipBlank true rest
    else some (c :: rest)

/-! ### The text between the quotes -/

/-- A text up to the closing quote on the same line; `escapes` if a backslash takes the next character
along. -/
def lineBody (quote : Char) (escapes : Bool) : List Char → Option (List Char × List Char)
  | [] => none
  | c :: rest =>
    if c = quote then some ([], rest)
    else if !isPlain c then none
    else if escapes && c = '\\' then
      match rest with
      | [] => none
      | d :: rest =>
        if isPlain d then (lineBody quote escapes rest).map fun r => (c :: d :: r.1, r.2) else none
    else (lineBody quote escapes rest).map fun r => (c :: r.1, r.2)

/-- The three quotes that close a text of several lines, after up to two that belong to it. -/
def closing (quote : Char) (cs : List Char) : Option (List Char × List Char) :=
  let n := (cs.takeWhile (· == quote)).length
  if n < 3 then none else some (List.replicate (min n 5 - 3) quote, cs.drop (min n 5))

/-- A text of several lines up to its closing quotes, with the ends of lines as they are written. -/
def blockBody (quote : Char) (escapes : Bool) : List Char → Option (List Char × List Char)
  | [] => none
  | '\n' :: rest => (blockBody quote escapes rest).map fun r => ('\n' :: r.1, r.2)
  | '\r' :: '\n' :: rest =>
    (blockBody quote escapes rest).map fun r => ('\r' :: '\n' :: r.1, r.2)
  | c :: rest =>
    match closing quote (c :: rest) with
    | some r => some r
    | none =>
      if !isPlain c then none
      else if escapes && c = '\\' then
        match rest with
        | '\n' :: rest => (blockBody quote escapes rest).map fun r => (c :: '\n' :: r.1, r.2)
        | '\r' :: '\n' :: rest =>
          (blockBody quote escapes rest).map fun r => (c :: '\r' :: '\n' :: r.1, r.2)
        | d :: rest =>
          if isPlain d then (blockBody quote escapes rest).map fun r => (c :: d :: r.1, r.2)
          else none
        | [] => none
      else (blockBody quote escapes rest).map fun r => (c :: r.1, r.2)

/-! ### Escapes -/

/-- The value of a hexadecimal digit. -/
def hexDigit (c : Char) : Option Nat :=
  if c.isDigit then some (c.toNat - '0'.toNat)
  else if 'a' ≤ c ∧ c ≤ 'f' then some (c.toNat - 'a'.toNat + 10)
  else if 'A' ≤ c ∧ c ≤ 'F' then some (c.toNat - 'A'.toNat + 10)
  else none

/-- The character whose number is given in hexadecimal digits. -/
def hexChar (digits : List Char) : Option Char := do
  let n ← digits.foldlM (fun n c => (hexDigit c).map (16 * n + ·)) 0
  if n.isValidChar then some (Char.ofNat n) else none

/-- The character that a letter after a backslash stands for. -/
def shortEscape : Char → Option Char
  | 'b' => some '\x08'
  | 't' => some '\t'
  | 'n' => some '\n'
  | 'f' => some '\x0c'
  | 'r' => some '\r'
  | 'e' => some '\x1b'
  | '"' => some '"'
  | '\\' => some '\\'
  | _ => none

/-- A backslash before this text ends its line: only spaces stand before the next line. -/
def endsLine (cs : List Char) : Bool := (newline (skipSpace cs)).isSome

/-- A space, or a part of an end of a line. -/
def isBlankChar (c : Char) : Bool := isSpace c || c == '\n' || c == '\r'

/-- The characters that a text stands for. A backslash at the end of a line takes all blanks after it
away; `trimming` says that this is under way. -/
def unescape (trimming : Bool) : List Char → Option (List Char)
  | [] => some []
  | '\\' :: 'x' :: a :: b :: rest => do
    return (← hexChar [a, b]) :: (← unescape false rest)
  | '\\' :: 'u' :: a :: b :: c :: d :: rest => do
    return (← hexChar [a, b, c, d]) :: (← unescape false rest)
  | '\\' :: 'U' :: a :: b :: c :: d :: e :: f :: g :: h :: rest => do
    return (← hexChar [a, b, c, d, e, f, g, h]) :: (← unescape false rest)
  | '\\' :: c :: rest =>
    if endsLine (c :: rest) then unescape true rest
    else do return (← shortEscape c) :: (← unescape false rest)
  | c :: rest =>
    if trimming && isBlankChar c then unescape true rest
    else if c = '\\' then none
    else (unescape false rest).map (c :: ·)

/-- Leave out an end of a line right after the opening quotes. -/
def dropFirstNewline (cs : List Char) : List Char := (newline cs).getD cs

/-- A string at the front of a text. -/
def readQuoted : List Char → Option (String × List Char)
  | '"' :: '"' :: '"' :: rest => do
    let (body, rest) ← blockBody '"' true (dropFirstNewline rest)
    return (String.ofList (← unescape false body), rest)
  | '\'' :: '\'' :: '\'' :: rest => do
    let (body, rest) ← blockBody '\'' false (dropFirstNewline rest)
    return (String.ofList body, rest)
  | '"' :: rest => do
    let (body, rest) ← lineBody '"' true rest
    return (String.ofList (← unescape false body), rest)
  | '\'' :: rest => do
    let (body, rest) ← lineBody '\'' false rest
    return (String.ofList body, rest)
  | _ => none

end ColumnBridge.Toml
