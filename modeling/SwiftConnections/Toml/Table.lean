import SwiftConnections.Toml.Value

namespace SwiftConnections

namespace Toml

/-- The values of a table under their keys. -/
abbrev Entries := List (Text × Toml)

/-- The entries with the value under a key replaced by what `f` makes of it, or of its absence. -/
def alter? (key : Text) (f : Option Toml → Option Toml) : Entries → Option Entries
  | [] => (f none).map fun value => [(key, value)]
  | entry :: rest =>
    if entry.1 = key then (f (some entry.2)).map fun value => (key, value) :: rest
    else (alter? key f rest).map (entry :: ·)

/-- A table changed inside. A dotted key makes a table or adds to one that no header and no braces made; a
header adds to all but tables between braces, and to the last table of a list that headers made. -/
def enter? (byDots : Bool) (f : TableOrigin → Entries → Option Entries) : Option Toml → Option Toml
  | none =>
    let origin := if byDots then TableOrigin.dotted else .implied
    (f origin []).map (table origin)
  | some (table origin entries) =>
    if origin = .inline ∨ (byDots ∧ origin = .header) then none else (f origin entries).map (table origin)
  | some (array true items) =>
    match items.getLast? with
    | some (table origin entries) =>
      (f origin entries).map fun entries => array true (items.dropLast ++ [table origin entries])
    | _ => none
  | _ => none

/-- The entries with the table at a path changed inside. -/
def alterAt? (byDots : Bool) (f : TableOrigin → Entries → Option Entries) :
    (path : List Text) → TableOrigin → Entries → Option Entries
  | [], origin, entries => f origin entries
  | key :: path, _, entries => alter? key (enter? byDots (alterAt? byDots f path)) entries

/-- The entries with a new value. Where the key has dots, the table that takes the value must be one that such
keys made. -/
def addPair? (path : List Text) (value : Toml) (origin : TableOrigin) (entries : Entries) : Option Entries :=
  let byDots := !path.dropLast.isEmpty
  alterAt? byDots (fun origin entries =>
    if byDots && origin != .dotted then none
    else alter? (path.getLast?.getD []) (fun | none => some value | some _ => none) entries)
    path.dropLast origin entries

/-- The table that a header opens, which nothing but longer headers may have made before. -/
def openTable? : Option Toml → Option Toml
  | none => some (table .header [])
  | some (table .implied entries) => some (table .header entries)
  | _ => none

/-- The list with the table that a header adds to it. -/
def openItem? : Option Toml → Option Toml
  | none => some (array true [table .header []])
  | some (array true items) => some (array true (items ++ [table .header []]))
  | _ => none

/-- The entries after a header with this path. -/
def addHeader? (isItem : Bool) (path : List Text) (entries : Entries) : Option Entries :=
  alterAt? false (fun _ => alter? (path.getLast?.getD []) (if isItem then openItem? else openTable?))
    path.dropLast .header entries

/-- A line of a document that is not empty. -/
inductive Line
  | header (isItem : Bool) (path : List Text)
  | entry (path : List Text) (value : Toml)

/-- The entries after one more line, and the path of the table that lines add to. -/
def addLine? (state : Entries × List Text) : Line → Option (Entries × List Text)
  | .header isItem path => (addHeader? isItem path state.1).map (·, path)
  | .entry path value =>
    (alterAt? false (addPair? path value) state.2 .header state.1).map (·, state.2)

/-- The table that the lines of a document make up, unless two of them are at odds. -/
def ofLines? (lines : List Line) : Option Entries :=
  (lines.foldlM addLine? ([], [])).map (·.1)

/-- The table between braces with these entries, unless two of them are at odds. -/
def ofInline? (entries : List (List Text × Toml)) : Option Toml :=
  (entries.foldlM (fun table entry => addPair? entry.1 entry.2 .inline table) []).map (table .inline)

end Toml

end SwiftConnections
