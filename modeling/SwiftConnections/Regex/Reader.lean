import SwiftConnections.Regex.CharClass
import SwiftConnections.Regex.Group

namespace SwiftConnections

/-- Why a regular expression is refused. -/
inductive RegexError
  /-- It is malformed, nested too deep, or holds what is not known. -/
  | malformed
  | unicodeBoundary
  deriving DecidableEq

def RegexError.message : RegexError → Text
  | malformed => "error building NFA"
  | unicodeBoundary =>
    "unsupported regex feature for DFAs: cannot build DFAs for regexes with Unicode word boundaries; " ++
      "switch to ASCII word boundaries, or heuristically enable Unicode word boundaries or use a " ++
      "different regex engine"

namespace Regex

/-- Some expressions one after the other, the last of which comes first. -/
def sequenceOfLatest : List Regex → Regex
  | [] => empty
  | [r] => r
  | items => sequence items.reverse

/-- One of some expressions, the last of which comes first. -/
def choiceOfLatest : List Regex → Regex
  | [r] => r
  | branches => choice branches.reverse

/-- The expression that a backslash and the characters behind it stand for. -/
def ofEscape (modes : RegexModes) : RegexEscape → Regex
  | .char isByte c => char modes isByte c
  | .shorthand isNegated => charClass modes (.shorthand isNegated)
  | .anchor => anchor
  | .wordBoundary => wordBoundary modes

/-- The single character, class or place at the start of a text, and what follows it. -/
def readItem? (limit : Nat) (modes : RegexModes) : Text → Option (Regex × Text)
  | [] => none
  | '\\' :: rest => (RegexEscape.read? modes rest).map fun found => (ofEscape modes found.1, found.2)
  | '[' :: rest => (CharClass.read? limit modes rest).map fun found => (charClass modes found.1, found.2)
  | '.' :: rest => some (anyChar modes, rest)
  | '^' :: rest => some (anchor, rest)
  | '$' :: rest => some (anchor, rest)
  | '{' :: _ => none
  | c :: rest => some (char modes false c, rest)

/-- The items with the last one repeated, which must not be a change of flags. -/
def repeatLatest? : List Regex → Option (List Regex)
  | [] => none
  | flags :: _ => none
  | r :: items => some (repetition r :: items)

/-- The names with one more, unless it is taken. -/
def addName? (names : List Text) : Option Text → Option (List Text)
  | none => some names
  | some name => if names.contains name then none else some (name :: names)

/-- The expression up to the end of the text or a closing parenthesis that it does not open, the names of its
groups, and what follows. Each step takes a character at least. -/
def read? : (limit : Nat) → RegexModes → (names : List Text) → (branches items : List Regex) → Text →
    Option (Regex × List Text × Text)
  | 0, _, _, _, _, _ => none
  | limit + 1, modes, names, branches, items, t =>
    match modes.skip t with
    | [] => some (choiceOfLatest (sequenceOfLatest items :: branches), names, [])
    | c :: rest =>
      if c = ')' then some (choiceOfLatest (sequenceOfLatest items :: branches), names, c :: rest)
      else if c = '|' then read? limit modes names (sequenceOfLatest items :: branches) [] rest
      else if c = '?' || c = '*' || c = '+' then do
        let rest := if rest.head? = some '?' then rest.tail else rest
        read? limit modes names branches (← repeatLatest? items) rest
      else if c = '(' then do
        match ← GroupStart.read? modes rest with
        | (.flags modes, rest) => read? limit modes names branches (flags :: items) rest
        | (.group inner name, rest) =>
          let (inside, names, rest) ← read? limit inner (← addName? names name) [] [] rest
          read? limit modes names branches (group inside :: items) (← Text.after? ')' rest)
      else do
        let (item, rest) ← readItem? limit modes (c :: rest)
        read? limit modes names branches (item :: items) rest

/-- Expressions may be nested to this depth. -/
def depthLimit : Nat :=
  250

/-- The regular expression in a text. -/
def ofText (t : Text) : Except RegexError Regex :=
  match read? (t.length + 1) {} [] [] [] t with
  | some (r, _, []) =>
    if depthLimit < r.depth || !r.parts.all isKnown then .error .malformed
    else if r.parts.any isUnicodeBoundary then .error .unicodeBoundary
    else .ok r
  | _ => .error .malformed

end Regex

end SwiftConnections
