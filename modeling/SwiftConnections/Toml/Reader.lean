import SwiftConnections.Toml.Moment
import SwiftConnections.Toml.Number
import SwiftConnections.Toml.Quoted
import SwiftConnections.Toml.Table

namespace SwiftConnections

namespace Toml

/-- The character may stand in a key without quotes. -/
def isBare (c : Char) : Bool :=
  c.isAlphanum || c = '_' || c = '-'

/-- The key without dots at the start of a text, and what follows it. -/
def readKey? (t : Text) : Option (Text × Text) :=
  match t with
  | '"' :: rest => readBasic? rest
  | '\'' :: rest => readLiteral? rest
  | t => if t.head?.any isBare then some (t.takeWhile isBare, t.dropWhile isBare) else none

/-- The key at the start of a text with its parts, as many as the limit allows, and what follows it and
spaces. -/
def readPath? : (limit : Nat) → Text → Option (List Text × Text)
  | 0, _ => none
  | limit + 1, t => do
    let (key, rest) ← readKey? (Text.skipSpace t)
    match Text.skipSpace rest with
    | '.' :: rest => (readPath? limit rest).map fun found => (key :: found.1, found.2)
    | rest => some ([key], rest)

/-- Keys may have this many parts, and values may be nested to this depth. -/
def depthLimit : Nat :=
  80

/-- The key at the start of a text. -/
def path? (t : Text) : Option (List Text × Text) :=
  readPath? depthLimit t

/-- The character may stand in a number, a moment or a word. -/
def isWordChar (c : Char) : Bool :=
  !isSpace c && c ∉ ['\r', '\n', '#', '=', ',', '[', ']', '{', '}']

/-- The value that a word stands for. -/
def ofWord? (word : Text) : Option Toml :=
  if word = ("true" : Text) then some (boolean true)
  else if word = ("false" : Text) then some (boolean false)
  else if isMoment word then some moment
  else ofNumber? word

/-- The value at the start of a text that is neither a string nor made of other values, and what follows it.
A space may stand between a date and a time. -/
def readWord? (t : Text) : Option (Toml × Text) :=
  let word := t.takeWhile isWordChar
  match t.dropWhile isWordChar with
  | ' ' :: c :: rest =>
    if isDate word && c.isDigit then
      if isTimeOfDay ((c :: rest).takeWhile isWordChar)
        then some (moment, (c :: rest).dropWhile isWordChar)
        else none
    else (ofWord? word).map (·, ' ' :: c :: rest)
  | rest => (ofWord? word).map (·, rest)

/-- The items of a list or table up to the character that closes it, and what follows that. They may run over
several lines and end in a comma. There are no more items than characters. -/
def readItems? {α : Type} (close : Char) (item? : Text → Option (α × Text)) :
    (limit : Nat) → Text → Option (List α × Text)
  | 0, _ => none
  | limit + 1, t => do
    let t ← Text.skipLines? false t
    if t.head? = some close then some ([], t.tail)
    else
      let (item, rest) ← item? t
      let rest ← Text.skipLines? false rest
      if rest.head? = some close then some ([item], rest.tail)
      else
        (readItems? close item? limit (← Text.after? ',' rest)).map fun found => (item :: found.1, found.2)

/-- A key with its value, and what follows them. What may stand around the sign between them is left out by
`skip?`. -/
def readPair? (skip? : Text → Option Text) (value? : Text → Option (Toml × Text)) (t : Text) :
    Option ((List Text × Toml) × Text) := do
  let (path, rest) ← path? t
  let (value, rest) ← value? (← skip? (← Text.after? '=' (← skip? rest)))
  some ((path, value), rest)

/-- The value at the start of a text, and what follows it. Lists and tables may be nested to a depth. -/
def readValue? (depth : Nat) (t : Text) : Option (Toml × Text) :=
  match t with
  | '[' :: rest =>
    match depth with
    | 0 => none
    | depth + 1 =>
      (readItems? ']' (readValue? depth) rest.length rest).map fun found =>
        (array false found.1, found.2)
  | '{' :: rest =>
    match depth with
    | 0 => none
    | depth + 1 => do
      let pair? := readPair? (Text.skipLines? false) (readValue? depth)
      let (entries, rest) ← readItems? '}' pair? rest.length rest
      (ofInline? entries).map (·, rest)
  | '"' :: _ => (readQuoted? t).map fun found => (text found.1, found.2)
  | '\'' :: _ => (readQuoted? t).map fun found => (text found.1, found.2)
  | t => readWord? t

/-- The line with content at the start of a text, and what follows it. -/
def readLine? (t : Text) : Option (Line × Text) :=
  match t with
  | '[' :: '[' :: rest => do
    let (path, rest) ← path? rest
    let rest ← Text.expect? ']' rest
    if rest.head? = some ']' then some (.header true path, rest.tail) else none
  | '[' :: rest => do
    let (path, rest) ← path? rest
    let rest ← Text.expect? ']' rest
    some (.header false path, rest)
  | t =>
    (readPair? (some ∘ Text.skipSpace) (readValue? depthLimit) t).map fun found =>
      (.entry found.1.1 found.1.2, found.2)

/-- The lines with content of a text that begins with one. No text has more lines than characters. -/
def readLines? : (limit : Nat) → Text → Option (List Line)
  | _, [] => some []
  | 0, _ => none
  | limit + 1, t => do
    let (line, rest) ← readLine? t
    (readLines? limit (← Text.nextLine? rest)).map (line :: ·)

/-- The text without a byte order mark at its start. -/
def dropMark : Text → Text
  | '\ufeff' :: rest => rest
  | t => t

/-- The table that a document describes, unless it is malformed. -/
def read? (t : Text) : Option Entries := do
  let t ← Text.skipLines? false (dropMark t)
  ofLines? (← readLines? t.length t)

end Toml

end SwiftConnections
