import SwiftConnections.OutputName

namespace SwiftConnections

/-- The output names handed out in one run. A name that is taken is told apart by a number before the
component. -/
structure NameTable where
  component : Text
  naming : FileNaming
  /-- The names handed out, the latest first. -/
  taken : List Text := []
  /-- For a plain name that was taken before, the number to try next. -/
  next : List (Text × Nat) := []

namespace NameTable

/-- The name of a path with no number in it. -/
def plain (table : NameTable) (path : Text) : Text :=
  outputName table.component table.naming path

/-- The name of a path with a number before the component. -/
def numbered (table : NameTable) (path : Text) (n : Nat) : Text :=
  outputName (Text.ofNat n ++ "." ++ table.component) table.naming path

/-- The number to try next for a plain name, which starts at one. -/
def counter (table : NameTable) (plain : Text) : Nat :=
  (table.next.lookup plain).getD 1

/-- The first number from `start` on whose name is free. One more numbers than there are taken names
always hold a free one, because different numbers give different names. -/
def firstFree (table : NameTable) (path : Text) (start : Nat) : Nat :=
  let tries := (List.range (table.taken.length + 1)).map (start + ·)
  (tries.find? fun n => table.numbered path n ∉ table.taken).getD start

/-- Hands out a name for a path that no earlier claim was given. -/
def claim (table : NameTable) (path : Text) : Text × NameTable :=
  let plain := table.plain path
  if plain ∈ table.taken then
    let n := table.firstFree path (table.counter plain)
    let name := table.numbered path n
    (name, { table with taken := name :: table.taken, next := (plain, n + 1) :: table.next })
  else (plain, { table with taken := plain :: table.taken })

/-- The names for a list of paths, claimed in order. -/
def claimAll (table : NameTable) : List Text → List Text
  | [] => []
  | path :: paths =>
    let (name, table) := table.claim path
    name :: table.claimAll paths

end NameTable

end SwiftConnections
