import SwiftConnections.Regex.Escape
import SwiftConnections.Unicode.Alphanumeric

namespace SwiftConnections

namespace RegexModes

/-- The letters of the flags: for cases, lines, points, greed, characters, line ends and blanks. -/
def flagLetters : Text :=
  "imsUuRx"

/-- The flags after one of them was set or cleared. The others decide about matches only. -/
def change (modes : RegexModes) (flag : Char × Bool) : RegexModes :=
  match flag.1 with
  | 'i' => { modes with ignoresCase := flag.2 }
  | 'u' => { modes with isUnicode := flag.2 }
  | 'x' => { modes with skipsBlanks := flag.2 }
  | _ => modes

/-- The flags up to a parenthesis or colon, each once and with whether it is set, that character, and what
follows it. One hyphen may stand before flags that are cleared. -/
def readFlags? (isSet : Bool) : Text → Option (List (Char × Bool) × Char × Text)
  | [] => none
  | c :: rest =>
    if c = ':' ∨ c = ')' then some ([], c, rest)
    else if c = '-' then
      if isSet ∧ rest.head? ≠ some ':' ∧ rest.head? ≠ some ')' then readFlags? false rest else none
    else do
      let (flags, close, rest) ← readFlags? isSet rest
      if c ∈ flagLetters ∧ flags.all (·.1 ≠ c) then some ((c, isSet) :: flags, close, rest) else none

end RegexModes

/-- What an opening parenthesis begins. -/
inductive GroupStart
  /-- Flags for the rest of the group around them. -/
  | flags (modes : RegexModes)
  | group (modes : RegexModes) (name : Option Text)

namespace GroupStart

/-- A group may have this name. -/
def isName : Text → Bool
  | [] => false
  | c :: rest =>
    (c = '_' || isAlphabetic c) && rest.all fun c => isAlphanumeric c || ['_', '.', '[', ']'].contains c

/-- The group with the name at the start of a text, and what follows that. -/
def readName? (modes : RegexModes) (t : Text) : Option (GroupStart × Text) := do
  let name := t.takeWhile (· ≠ '>')
  let rest ← Text.after? '>' (t.dropWhile (· ≠ '>'))
  if isName name then some (group modes name, rest) else none

/-- What begins behind an opening parenthesis, and what follows that. -/
def read? (modes : RegexModes) (t : Text) : Option (GroupStart × Text) :=
  match modes.skip t with
  | '?' :: 'P' :: '<' :: rest => readName? modes rest
  | '?' :: '<' :: rest => readName? modes rest
  | '?' :: rest => do
    let (changes, close, rest) ← RegexModes.readFlags? true rest
    let modes := changes.foldl RegexModes.change modes
    if close = ':' then some (group modes none, rest)
    else if changes.isEmpty then none
    else some (flags modes, rest)
  | rest => some (group modes none, rest)

end GroupStart

end SwiftConnections
