import SwiftConnections.Http.Rule

namespace SwiftConnections

/-- A character as it stands between quotes. -/
def quotedChar (c : Char) : Text :=
  if c = '"' then ['\\', '"'] else if c = '\\' then ['\\', '\\'] else if c = '\n' then ['\\', 'n'] else [c]

/-- A text between quotes, on one line. -/
def quoted (t : Text) : Text :=
  '"' :: t.flatMap quotedChar ++ ['"']

/-- A line at a depth of nesting, which shows as two spaces for each level. -/
def lineAt (depth : Nat) (t : Text) : Text :=
  List.replicate (2 * depth) ' ' ++ t

/-- The line of a field: its number and its value. -/
def fieldLine (depth number : Nat) (value : Text) : Text :=
  lineAt depth (Text.ofNat number ++ ": " ++ quoted value)

/-- A field that is written only if it has a value. -/
def optionalFieldLine (depth number : Nat) (value : Text) : List Text :=
  if value = [] then [] else [fieldLine depth number value]

/-- The lines of a nested field around the lines of its value. -/
def groupLines (depth number : Nat) (inner : List Text) : List Text :=
  [lineAt depth (Text.ofNat number ++ " \x7b")] ++ inner ++ [lineAt depth "\x7d"]

def HttpPattern.textLines (depth : Nat) : HttpPattern → List Text
  | get path => [fieldLine depth 2 path]
  | put path => [fieldLine depth 3 path]
  | post path => [fieldLine depth 4 path]
  | delete path => [fieldLine depth 5 path]
  | patch path => [fieldLine depth 6 path]
  | custom kind path =>
    groupLines depth 8 (optionalFieldLine (depth + 1) 1 kind ++ optionalFieldLine (depth + 1) 2 path)

mutual

/-- The fields of a rule by number, one line each; a further binding is a nested field. -/
def HttpRule.textLines (depth : Nat) : HttpRule → List Text
  | ⟨selector, pattern, body, additional, responseBody⟩ =>
    optionalFieldLine depth 1 selector ++ (pattern.map (·.textLines depth)).getD [] ++
      optionalFieldLine depth 7 body ++ HttpRule.additionalLines depth additional ++
      optionalFieldLine depth 12 responseBody

def HttpRule.additionalLines (depth : Nat) : List HttpRule → List Text
  | [] => []
  | rule :: rules => groupLines depth 11 (rule.textLines (depth + 1)) ++ HttpRule.additionalLines depth rules

end

def MethodOptions.textLines (options : MethodOptions) : List Text :=
  (if options.deprecated then [("deprecated: true" : Text)] else []) ++
    (options.http.map fun rule => groupLines 0 httpRuleNumber (rule.textLines 1)).getD []

/-- The options of a method as text, one field to a line. -/
def MethodOptions.text (options : MethodOptions) : Text :=
  Text.unlines options.textLines

end SwiftConnections
