import ColumnBridge.Calendar
import ColumnBridge.Toml.Number

/-!
Words of TOML documents: truth values, numbers, dates and times.

* `isDatetime`: what a date, a time of day or both look like;
* `readScalar`: the word at the front of a text.
-/

namespace ColumnBridge.Toml

/-! ### Dates and times -/

/-- The number that exactly `n` digits denote, and what comes after them. -/
def takeDigits (n : Nat) (cs : List Char) : Option (Nat × List Char) :=
  let digits := cs.take n
  if digits.length = n && digits.all Char.isDigit then some (radixValue 10 digits, cs.drop n)
  else none

/-- One given character, and what comes after it. -/
def takeChar (c : Char) : List Char → Option (List Char)
  | d :: rest => if d = c then some rest else none
  | [] => none

/-- A day of the calendar, and what comes after it. -/
def takeDate (cs : List Char) : Option (List Char) := do
  let (year, cs) ← takeDigits 4 cs
  let (month, cs) ← takeDigits 2 (← takeChar '-' cs)
  let (day, cs) ← takeDigits 2 (← takeChar '-' cs)
  let date : Calendar.Date := ⟨year, month, day⟩
  if Calendar.dateOfDay (Calendar.dayNumber date) = date then some cs else none

/-- A time of day, of which the seconds may be left out, and what comes after it. -/
def takeTime (cs : List Char) : Option (List Char) := do
  let (hour, cs) ← takeDigits 2 cs
  let (minute, cs) ← takeDigits 2 (← takeChar ':' cs)
  if 23 < hour || 59 < minute then none
  else
    match takeChar ':' cs with
    | none => some cs
    | some cs =>
      let (second, cs) ← takeDigits 2 cs
      if 60 < second then none
      else
        match takeChar '.' cs with
        | none => some cs
        | some cs =>
          if (cs.takeWhile Char.isDigit).isEmpty then none else some (cs.dropWhile Char.isDigit)

/-- The offset of a time zone, up to the end. -/
def isOffset : List Char → Bool
  | [] => true
  | ['Z'] | ['z'] => true
  | c :: rest =>
    (c == '+' || c == '-') &&
      match takeDigits 2 rest with
      | some (hour, ':' :: rest) =>
        hour < 24 && (takeDigits 2 rest).any fun r => r.1 < 60 && r.2.isEmpty
      | _ => false

/-- A date, a time of day, or both with or without an offset. -/
def isDatetime (cs : List Char) : Bool :=
  match takeDate cs with
  | some [] => true
  | some (c :: rest) => (c == 'T' || c == 't' || c == ' ') && (takeTime rest).any isOffset
  | none => (takeTime cs).any List.isEmpty

/-! ### Words -/

/-- A character that ends a word: a space, a part of an end of a line, or a mark of the format. -/
def endsWord (c : Char) : Bool :=
  isSpace c || ['\n', '\r', ',', '=', '[', ']', '{', '}', '#'].contains c

/-- A word at the front of a text. A space between a date and a time of day belongs to the word. -/
def takeWord (cs : List Char) : List Char × List Char :=
  let word := cs.takeWhile (!endsWord ·)
  match takeDate word, cs.dropWhile (!endsWord ·) with
  | some [], ' ' :: rest =>
    if (takeTime rest).isSome then
      (word ++ ' ' :: rest.takeWhile (!endsWord ·), rest.dropWhile (!endsWord ·))
    else (word, ' ' :: rest)
  | _, rest => (word, rest)

/-- The value of a word. -/
def wordValue (word : List Char) : Option TomlValue :=
  if word = "true".toList then some (.boolean true)
  else if word = "false".toList then some (.boolean false)
  else
    (readInteger word <|> readFloat word) <|>
      if isDatetime word then some .datetime else none

/-- A value without quotes and brackets at the front of a text. -/
def readScalar (cs : List Char) : Option (TomlValue × List Char) :=
  let (word, rest) := takeWord cs
  (wordValue word).map fun v => (v, rest)

end ColumnBridge.Toml
