import SwiftConnections.Text

namespace SwiftConnections

/-- A control character other than the tab and the line feed. -/
def isControl (c : Char) : Bool :=
  (c < ' ' && c ≠ '\t' && c ≠ '\n') || c = '\x7f'

/-- The text has three of a character in a row. -/
def hasThree (c : Char) (t : Text) : Bool :=
  t.contains [c, c, c]

/-- A digit below sixteen in capitals. -/
def capitalHexDigit (n : Nat) : Char :=
  (Nat.digitChar n).toUpper

/-- A control character as it is written between quotation marks. -/
def controlEscape (c : Char) : Text :=
  match c with
  | '\x08' => "\\b"
  | '\t' => "\\t"
  | '\n' => "\\n"
  | '\x0c' => "\\f"
  | '\r' => "\\r"
  | c => "\\u00" ++ [capitalHexDigit (c.toNat / 16), capitalHexDigit (c.toNat % 16)]

/-- The inside of a string between marks of quotation. Up to `free` quotation marks in a row need no escape,
of which `run` were just written, and line feeds need none in text over several lines. -/
def writeBasic (free : Nat) (run : Nat) : Text → Text
  | [] => []
  | c :: rest =>
    if c = '"' then
      if run < free then c :: writeBasic free (run + 1) rest else "\\\"" ++ writeBasic free 0 rest
    else if c = '\\' then "\\\\" ++ writeBasic free 0 rest
    else if isControl c || c = '\t' || (c = '\n' && free = 0) then controlEscape c ++ writeBasic free 0 rest
    else c :: writeBasic free 0 rest

/-- A text as a string of a configuration file, in the first of the forms that need the fewest escapes. -/
def writeQuoted (t : Text) : Text :=
  let control := t.any isControl
  let newline : Text := if '\n' ∈ t then "\n" else []
  if !control && !(t.any fun c => c = '\\' || c = '"' || c = '\n') then "\"" ++ writeBasic 0 0 t ++ "\""
  else if !control && !(t.any fun c => c = '\'' || c = '\n') then "'" ++ t ++ "'"
  else if !control && '\\' ∉ t && !hasThree '"' t then "\"\"\"" ++ newline ++ writeBasic 2 0 t ++ "\"\"\""
  else if !control && !hasThree '\'' t then "'''" ++ newline ++ t ++ "'''"
  else if '\n' ∈ t then "\"\"\"\n" ++ writeBasic 2 0 t ++ "\"\"\""
  else "\"" ++ writeBasic 0 0 t ++ "\""

end SwiftConnections
