import SwiftConnections.Hexadecimal
import SwiftConnections.Toml.Value

namespace SwiftConnections

/-- The underscores of a number stand between digits. The first one may also follow a sign. -/
def areSpaced (digit : Char → Bool) (t : Text) : Bool :=
  let pieces := Text.split t '_'
  pieces.tail.all (fun piece => piece.head?.any digit) &&
    pieces.dropLast.all fun piece => piece.length = 1 || piece.getLast?.any digit

/-- The bounds of whole numbers: 128 bits with a sign for negative ones and without one for the others. -/
def inIntegerRange (negative : Bool) (n : Nat) : Bool :=
  if negative then n ≤ Nat.pow 2 127 else n < Nat.pow 2 128

namespace Toml

/-- The whole number behind the mark of a base. Without digits it is not readable. -/
def ofBased? (base : Nat) (digits : Text) : Option Toml :=
  if digits.all (fun c => c = '_' || (hexValue? c).any (· < base)) && areSpaced isHexDigit digits then
    some (number (!digits.isEmpty && inIntegerRange false (digitsValue base digits)))
  else none

/-- The whole number in base ten with or without a sign. Behind an underscore it may hold other characters,
but then it is not readable. -/
def ofDecimal? (t : Text) : Option Toml :=
  let (negative, digits) := Text.cutSign t
  let rest := digits.dropWhile Char.isDigit
  if (digits ≠ [] && rest = [] && (digits.head? != some '0' || digits.length == 1)) ||
      (rest.head? = some '_' && digits.head? != some '0' && areSpaced isHexDigit t) then
    some (number (digits.all (fun c => c.isDigit || c = '_') &&
      inIntegerRange negative (digitsValue 10 digits)))
  else none

/-- The least number that is too large for a float of 64 bits: half a step above the largest one. -/
def floatBound : Nat :=
  Nat.pow 2 1024 - Nat.pow 2 970

/-- The number `m * 10 ^ up / 10 ^ down` is below the bound of floats. A number with more than 400 digits
before its point is not. -/
def isFloatSized (m up down : Nat) : Bool :=
  let digits := (Text.ofNat m).length
  m == 0 || digits + up ≤ down ||
    (digits + up ≤ down + 400 && m * Nat.pow 10 up < floatBound * Nat.pow 10 down)

/-- The digits at the start of a text, at least one, and what follows them and the underscores among them. -/
def readDigits? (t : Text) : Option (Text × Text) :=
  let digits := (t.takeWhile fun c => c.isDigit || c = '_').filter Char.isDigit
  if digits.isEmpty then none else some (digits, t.dropWhile fun c => c.isDigit || c = '_')

/-- The digits behind a point, if there is one, and what follows them. -/
def readFraction? : Text → Option (Text × Text)
  | '.' :: rest => readDigits? rest
  | t => some ([], t)

/-- The exponent at the start of a text, if there is one: its sign and its digits, and what follows them. -/
def readExponent? (t : Text) : Option ((Bool × Text) × Text) :=
  match t with
  | c :: rest =>
    if c = 'e' ∨ c = 'E' then
      let (negative, rest) := Text.cutSign rest
      (readDigits? rest).map fun found => ((negative, found.1), found.2)
    else some ((false, []), t)
  | [] => some ((false, []), t)

/-- The number with a fraction, an exponent or both, readable if floats come in its size. -/
def ofFloat? (t : Text) : Option Toml := do
  let digits := (Text.cutSign t).2
  let (whole, rest) ← readDigits? digits
  let (fraction, rest) ← readFraction? rest
  let ((negative, exponent), rest) ← readExponent? rest
  let places := fraction.length
  let shift := digitsValue 10 exponent
  let (up, down) := if negative then (0, places + shift) else (shift - places, places - shift)
  if rest = [] ∧ (digits.head? ≠ some '0' ∨ whole.length = 1) ∧ areSpaced Char.isDigit t then
    some (number (isFloatSized (digitsValue 10 (whole ++ fraction)) up down))
  else none

/-- The number that a word stands for: infinity, no number at all, a whole number or a float. -/
def ofNumber? : Text → Option Toml
  | '0' :: 'x' :: digits => ofBased? 16 digits
  | '0' :: 'o' :: digits => ofBased? 8 digits
  | '0' :: 'b' :: digits => ofBased? 2 digits
  | t =>
    if (Text.cutSign t).2 = ("inf" : Text) ∨ (Text.cutSign t).2 = ("nan" : Text) then some (number true)
    else if t.any fun c => c = '.' || c = 'e' || c = 'E' then ofFloat? t
    else ofDecimal? t

end Toml

end SwiftConnections
