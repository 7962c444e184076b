namespace SwiftConnections

/-- Every `step`-th character from `first` to `last`. -/
structure Run where
  first : Nat
  last : Nat
  step : Nat

/-- The run has the character with this code point. -/
def Run.holds (r : Run) (code : Nat) : Bool :=
  r.first ≤ code && code ≤ r.last && (code - r.first) % r.step == 0

/-- The character is in one of the ranges, ends included. -/
def inRanges (ranges : List (Nat × Nat)) (c : Char) : Bool :=
  ranges.any fun r => r.1 ≤ c.toNat && c.toNat ≤ r.2

/-- The character is in one of the runs. -/
def inRuns (runs : List Run) (c : Char) : Bool :=
  runs.any (·.holds c.toNat)

/-- A run of characters that a case mapping moves by the same distance. -/
structure Shift where
  run : Run
  distance : Int

/-- The character after the first shift that applies, and unchanged if none does. -/
def shifted (shifts : List Shift) (c : Char) : Char :=
  match shifts.find? (·.run.holds c.toNat) with
  | some s => Char.ofNat ((c.toNat : Int) + s.distance).toNat
  | none => c

end SwiftConnections
