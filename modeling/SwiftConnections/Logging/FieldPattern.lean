import SwiftConnections.Regex.Reader

namespace SwiftConnections

/-- The name of a field, and whether a value is asked for. -/
structure FieldPattern where
  name : Text
  hasValue : Bool
  deriving DecidableEq

namespace FieldPattern

/-- The text is empty or holds an exponent. -/
def isExponent : Text → Bool
  | [] => true
  | c :: rest =>
    let digits := (Text.cutSign rest).2
    (c = 'e' || c = 'E') && !digits.isEmpty && digits.all Char.isDigit

/-- A number without a sign: infinity, no number at all, or digits, with a point and an exponent or without
them. -/
def isNumber (t : Text) : Bool :=
  let whole := t.takeWhile Char.isDigit
  let rest := t.dropWhile Char.isDigit
  let fraction := if rest.head? = some '.' then rest.tail.takeWhile Char.isDigit else []
  let rest := if rest.head? = some '.' then rest.tail.dropWhile Char.isDigit else rest
  (["inf", "infinity", "nan"] : List Text).contains (t.map Char.toLower) ||
    (!(whole ++ fraction).isEmpty && isExponent rest)

/-- Why a value cannot be asked for, if it cannot. It is a regular expression, or a number with a plus sign,
which is none; all other numbers are expressions as well. -/
def objection? (value : Text) : Option RegexError :=
  if value.head? = some '+' && isNumber value.tail then none
  else
    match Regex.ofText value with
    | .ok _ => none
    | .error e => some e

/-- The pattern in a text: a name, and behind an equals sign a value. What follows a second such sign plays
no part. -/
def ofText (t : Text) : Except RegexError FieldPattern :=
  let name := t.takeWhile (· ≠ '=')
  match (t.dropWhile (· ≠ '=')).tail? with
  | none => .ok ⟨name, false⟩
  | some rest =>
    match objection? (rest.takeWhile (· ≠ '=')) with
    | none => .ok ⟨name, true⟩
    | some e => .error e

end FieldPattern

end SwiftConnections
