import SwiftConnections.Text

namespace SwiftConnections

/-- The value of a hexadecimal digit. -/
def hexValue? (c : Char) : Option Nat :=
  if c.isDigit then some (c.toNat - 48)
  else if 'a' ≤ c ∧ c ≤ 'f' then some (c.toNat - 87)
  else if 'A' ≤ c ∧ c ≤ 'F' then some (c.toNat - 55)
  else none

def isHexDigit (c : Char) : Bool :=
  (hexValue? c).isSome

/-- The number that digits denote, whatever stands between them. -/
def digitsValue (base : Nat) (digits : Text) : Nat :=
  (digits.filterMap hexValue?).foldl (fun n d => base * n + d) 0

/-- The character with a code in hexadecimal digits, unless no character has it. -/
def charOfHex? (digits : Text) : Option Char :=
  let code := digitsValue 16 digits
  if digits.all isHexDigit && code.isValidChar then some (Char.ofNat code) else none

end SwiftConnections
