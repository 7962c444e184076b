import SwiftConnections.Hexadecimal
import SwiftConnections.Toml.Scan

namespace SwiftConnections

/-- What a letter behind a backslash stands for. -/
def escapeOf? : Char → Option Char
  | 'b' => some '\x08'
  | 't' => some '\t'
  | 'n' => some '\n'
  | 'f' => some '\x0c'
  | 'e' => some '\x1b'
  | 'r' => some '\r'
  | '"' => some '"'
  | '\\' => some '\\'
  | _ => none

/-- A text with one more character at its start, and what follows it. -/
def consRead (c : Char) (found : Text × Text) : Text × Text :=
  (c :: found.1, found.2)

/-- The text up to a quotation mark, with its escapes read, and what follows the mark. -/
def readBasic? : Text → Option (Text × Text)
  | '"' :: rest => some ([], rest)
  | '\\' :: 'x' :: a :: b :: rest => do
    let c ← charOfHex? [a, b]
    (readBasic? rest).map (consRead c)
  | '\\' :: 'u' :: a :: b :: c :: d :: rest => do
    let e ← charOfHex? [a, b, c, d]
    (readBasic? rest).map (consRead e)
  | '\\' :: 'U' :: a :: b :: c :: d :: e :: f :: g :: h :: rest => do
    let i ← charOfHex? [a, b, c, d, e, f, g, h]
    (readBasic? rest).map (consRead i)
  | '\\' :: e :: rest => do
    let c ← escapeOf? e
    (readBasic? rest).map (consRead c)
  | c :: rest => if isPlain c && c ≠ '\\' then (readBasic? rest).map (consRead c) else none
  | [] => none

/-- The text up to an apostrophe, and what follows it. -/
def readLiteral? : Text → Option (Text × Text)
  | '\'' :: rest => some ([], rest)
  | c :: rest => if isPlain c then (readLiteral? rest).map (consRead c) else none
  | [] => none

/-- A backslash ends its line: only spaces follow it. -/
def endsLine (t : Text) : Bool :=
  (Text.afterNewline? t.skipSpace).isSome

/-- The text up to three quotation marks, and what follows them. Up to two more marks before them belong to
the text, and a backslash at the end of a line folds the text: all blanks up to the next character are left
out. -/
def readBasicLines? (folding : Bool) : Text → Option (Text × Text)
  | '"' :: '"' :: '"' :: '"' :: '"' :: rest => some (['"', '"'], rest)
  | '"' :: '"' :: '"' :: '"' :: rest => some (['"'], rest)
  | '"' :: '"' :: '"' :: rest => some ([], rest)
  | '\n' :: rest =>
    if folding then readBasicLines? true rest else (readBasicLines? false rest).map (consRead '\n')
  | '\r' :: '\n' :: rest =>
    if folding then readBasicLines? true rest
    else (readBasicLines? false rest).map (consRead '\r' ∘ consRead '\n')
  | '\\' :: 'x' :: a :: b :: rest => do
    let c ← charOfHex? [a, b]
    (readBasicLines? false rest).map (consRead c)
  | '\\' :: 'u' :: a :: b :: c :: d :: rest => do
    let e ← charOfHex? [a, b, c, d]
    (readBasicLines? false rest).map (consRead e)
  | '\\' :: 'U' :: a :: b :: c :: d :: e :: f :: g :: h :: rest => do
    let i ← charOfHex? [a, b, c, d, e, f, g, h]
    (readBasicLines? false rest).map (consRead i)
  | '\\' :: e :: rest =>
    match escapeOf? e with
    | some c => (readBasicLines? false rest).map (consRead c)
    | none => if endsLine (e :: rest) then readBasicLines? true (e :: rest) else none
  | c :: rest =>
    if folding && isSpace c then readBasicLines? true rest
    else if isPlain c && c ≠ '\\' then (readBasicLines? false rest).map (consRead c)
    else none
  | [] => none

/-- The text up to three apostrophes, and what follows them. Up to two more apostrophes before them belong
to the text. -/
def readLiteralLines? : Text → Option (Text × Text)
  | '\'' :: '\'' :: '\'' :: '\'' :: '\'' :: rest => some (['\'', '\''], rest)
  | '\'' :: '\'' :: '\'' :: '\'' :: rest => some (['\''], rest)
  | '\'' :: '\'' :: '\'' :: rest => some ([], rest)
  | '\n' :: rest => (readLiteralLines? rest).map (consRead '\n')
  | '\r' :: '\n' :: rest => (readLiteralLines? rest).map (consRead '\r' ∘ consRead '\n')
  | c :: rest => if isPlain c then (readLiteralLines? rest).map (consRead c) else none
  | [] => none

/-- The text without a line end at its start. -/
def Text.dropNewline (t : Text) : Text :=
  (Text.afterNewline? t).getD t

/-- The string at the start of a text, in any of the four forms, and what follows it. -/
def readQuoted? : Text → Option (Text × Text)
  | '"' :: '"' :: '"' :: rest => readBasicLines? false (Text.dropNewline rest)
  | '\'' :: '\'' :: '\'' :: rest => readLiteralLines? (Text.dropNewline rest)
  | '"' :: rest => readBasic? rest
  | '\'' :: rest => readLiteral? rest
  | _ => none

end SwiftConnections
