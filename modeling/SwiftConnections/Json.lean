import SwiftConnections.Text

namespace SwiftConnections

/-- A JSON value. The fields of an object are written in the order in which they stand. -/
inductive Json
  | null
  | bool (value : Bool)
  | text (value : Text)
  | array (items : List Json)
  | object (fields : List (Text × Json))

namespace Json

/-- The digit of a number below sixteen, in small letters. -/
def hexDigit (n : Nat) : Char :=
  Nat.digitChar n

/-- A character as it stands inside a JSON string. -/
def escaped (c : Char) : Text :=
  match c with
  | '"' => "\\\""
  | '\\' => "\\\\"
  | '\n' => "\\n"
  | '\r' => "\\r"
  | '\t' => "\\t"
  | '\x08' => "\\b"
  | '\x0c' => "\\f"
  | c => if c.toNat < 0x20 then "\\u00" ++ [hexDigit (c.toNat / 16), hexDigit (c.toNat % 16)] else [c]

/-- A text as a JSON string. -/
def quoted (t : Text) : Text :=
  '"' :: t.flatMap escaped ++ ['"']

/-- The start of a line at a depth of nesting. -/
def newline (depth : Nat) : Text :=
  '\n' :: List.replicate (2 * depth) ' '

/-- Items one to a line between brackets, and only the brackets if there are none. -/
def bracketed (opening closing : Char) (depth : Nat) (items : List Text) : Text :=
  match items with
  | [] => [opening, closing]
  | items =>
    [opening] ++ newline (depth + 1) ++ Text.join ("," ++ newline (depth + 1)) items ++
      newline depth ++ [closing]

mutual

/-- The value over several lines, indented by two spaces for each level. -/
def pretty (depth : Nat) : Json → Text
  | null => "null"
  | bool value => if value then "true" else "false"
  | text value => quoted value
  | array items => bracketed '[' ']' depth (prettyItems (depth + 1) items)
  | object fields => bracketed '{' '}' depth (prettyFields (depth + 1) fields)

def prettyItems (depth : Nat) : List Json → List Text
  | [] => []
  | item :: items => item.pretty depth :: prettyItems depth items

def prettyFields (depth : Nat) : List (Text × Json) → List Text
  | [] => []
  | (key, value) :: fields => (quoted key ++ ": " ++ value.pretty depth) :: prettyFields depth fields

end

end Json

end SwiftConnections
