import SwiftConnections.Hexadecimal
import SwiftConnections.Regex.Basic

namespace SwiftConnections

namespace RegexModes

/-- Without blanks and comments at the start. A comment goes from a number sign to the end of its line. -/
def dropBlanks (inComment : Bool) : Text → Text
  | [] => []
  | c :: rest =>
    if inComment then dropBlanks (c ≠ '\n') rest
    else if Text.isBlank c then dropBlanks false rest
    else if c = '#' then dropBlanks true rest
    else c :: rest

/-- Without what plays no part at the start. -/
def skip (modes : RegexModes) (t : Text) : Text :=
  if modes.skipsBlanks then dropBlanks false t else t

/-- The character that comes next. Where blanks play no part, neither they nor the first number sign count,
but the comment behind it does. -/
def next? (modes : RegexModes) (t : Text) : Option Char :=
  if modes.skipsBlanks then
    match t.dropWhile Text.isBlank with
    | '#' :: rest => (rest.dropWhile Text.isBlank).head?
    | rest => rest.head?
  else t.head?

end RegexModes

/-- What a backslash and the characters behind it stand for. -/
inductive RegexEscape
  | char (isByte : Bool) (c : Char)
  | shorthand (isNegated : Bool)
  | anchor
  | wordBoundary

namespace RegexEscape

/-- What a single character behind a backslash stands for. Signs of ASCII stand for themselves. -/
def ofChar? : Char → Option RegexEscape
  | 'a' => some (char false '\x07')
  | 'f' => some (char false '\x0c')
  | 't' => some (char false '\t')
  | 'n' => some (char false '\n')
  | 'r' => some (char false '\r')
  | 'v' => some (char false '\x0b')
  | 'd' => some (shorthand false)
  | 's' => some (shorthand false)
  | 'w' => some (shorthand false)
  | 'D' => some (shorthand true)
  | 'S' => some (shorthand true)
  | 'W' => some (shorthand true)
  | 'A' => some anchor
  | 'z' => some anchor
  | 'b' => some wordBoundary
  | 'B' => some wordBoundary
  | '<' => some wordBoundary
  | '>' => some wordBoundary
  | c => if c.toNat < 128 && !c.isAlphanum then some (char false c) else none

/-- So many characters with what plays no part around them left out, and what follows. -/
def readDigits? (modes : RegexModes) : (n : Nat) → Text → Option (Text × Text)
  | 0, t => some ([], modes.skip t)
  | n + 1, t =>
    match modes.skip t with
    | [] => none
    | c :: rest => (readDigits? modes n rest).map fun found => (c :: found.1, found.2)

/-- The character with a code of so many digits, and what follows it. -/
def readCode? (modes : RegexModes) (n : Nat) (t : Text) : Option (Char × Text) := do
  let (digits, rest) ← readDigits? modes n t
  (charOfHex? digits).map (·, rest)

/-- What the characters behind a backslash stand for, and what follows them. -/
def read? (modes : RegexModes) : Text → Option (RegexEscape × Text)
  | [] => none
  | 'x' :: rest => (readCode? modes 2 rest).map fun found => (char true found.1, found.2)
  | 'u' :: rest => (readCode? modes 4 rest).map fun found => (char false found.1, found.2)
  | 'U' :: rest => (readCode? modes 8 rest).map fun found => (char false found.1, found.2)
  | c :: rest => (ofChar? c).map (·, rest)

end RegexEscape

end SwiftConnections
