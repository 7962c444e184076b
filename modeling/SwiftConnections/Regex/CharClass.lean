import SwiftConnections.Regex.Escape

namespace SwiftConnections

namespace CharClass

/-- The names of classes of ASCII. -/
def names : List Text :=
  ["alnum", "alpha", "ascii", "blank", "cntrl", "digit", "graph", "lower", "print", "punct", "space",
    "upper", "word", "xdigit"]

/-- The class by its name behind the bracket at the start of a text, and what follows it. -/
def readNamed? (t : Text) : Option (CharClass × Text) := do
  let t ← Text.after? ':' t
  let (name, rest) ← Text.cut? t ":]"
  let plainName := if name.head? = some '^' then name.tail else name
  if names.contains plainName then some (named (name ≠ plainName), rest) else none

/-- The member at the start of a text, and what follows it. -/
def readMember? (modes : RegexModes) : Text → Option (CharClass × Text)
  | [] => none
  | '\\' :: rest =>
    match RegexEscape.read? modes rest with
    | some (.char _ c, rest) => some (char c, rest)
    | some (.shorthand isNegated, rest) => some (shorthand isNegated, rest)
    | _ => none
  | c :: rest => some (char c, rest)

/-- The range between two characters, the first of which must not be the later one. -/
def range? : CharClass → CharClass → Option CharClass
  | char first, char last => if first ≤ last then some (range first last) else none
  | _, _ => none

/-- The member or range at the start of a text, and what follows it. A hyphen before a bracket or another
hyphen makes no range. -/
def readRange? (modes : RegexModes) (t : Text) : Option (CharClass × Text) := do
  let (first, rest) ← readMember? modes t
  match modes.skip rest with
  | '-' :: rest =>
    if modes.next? rest = some ']' ∨ modes.next? rest = some '-' then some (first, '-' :: rest)
    else
      let (last, rest) ← readMember? modes (modes.skip rest)
      (range? first last).map (·, rest)
  | rest => some (first, rest)

/-- All that is in some of the classes, the last of which comes first. -/
def ofLatest : List CharClass → CharClass
  | [] => empty
  | [c] => c
  | classes => union classes.reverse

/-- A class combined with the classes on the right of it. -/
def close (left : Option CharClass) (classes : List CharClass) : CharClass :=
  match left with
  | none => ofLatest classes
  | some left => combination left (ofLatest classes)

/-- The text without a caret at its start, and whether there was one. -/
def cutCaret (modes : RegexModes) (t : Text) : Bool × Text :=
  match modes.skip t with
  | '^' :: rest => (true, rest)
  | rest => (false, rest)

/-- The class up to its closing bracket, and what follows that. At the start hyphens and one bracket stand
for themselves. Each step takes a character at least. -/
def readInside? : (limit : Nat) → RegexModes → (atStart : Bool) → (left : Option CharClass) →
    (classes : List CharClass) → Text → Option (CharClass × Text)
  | 0, _, _, _, _, _ => none
  | limit + 1, modes, atStart, left, classes, t =>
    match modes.skip t with
    | [] => none
    | c :: rest =>
      if atStart && (c = '-' || (c = ']' && classes.isEmpty)) then
        readInside? limit modes (c = '-') left (char c :: classes) rest
      else if c = ']' then some (close left classes, rest)
      else if c = '[' then
        match readNamed? rest with
        | some (found, rest) => readInside? limit modes false left (found :: classes) rest
        | none => do
          let (isNegated, rest) := cutCaret modes rest
          let (inside, rest) ← readInside? limit modes true none [] rest
          readInside? limit modes false left (bracketed isNegated inside :: classes) rest
      else if (c = '&' || c = '-' || c = '~') && rest.head? = some c then
        readInside? limit modes false (some (close left classes)) [] rest.tail
      else do
        let (found, rest) ← readRange? modes (c :: rest)
        readInside? limit modes false left (found :: classes) rest

/-- The class behind its opening bracket, and what follows it. -/
def read? (limit : Nat) (modes : RegexModes) (t : Text) : Option (CharClass × Text) := do
  let (isNegated, rest) := cutCaret modes t
  let (inside, rest) ← readInside? limit modes true none [] rest
  some (bracketed isNegated inside, rest)

end CharClass

end SwiftConnections
