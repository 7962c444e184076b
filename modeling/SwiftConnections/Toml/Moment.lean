import SwiftConnections.Text

namespace SwiftConnections

/-- The number in exactly `n` digits at the start of a text, and what follows them. -/
def fixedDigits? (n : Nat) (t : Text) : Option (Nat × Text) :=
  let digits := t.take n
  if digits.length = n then (Text.toNat? digits).map (·, t.drop n) else none

def isLeapYear (year : Nat) : Bool :=
  (year % 4 = 0 && year % 100 ≠ 0) || year % 400 = 0

def daysInMonth (year month : Nat) : Nat :=
  if month = 2 then if isLeapYear year then 29 else 28
  else if month ∈ [4, 6, 9, 11] then 30
  else 31

/-- What follows the date at the start of a text. -/
def afterDate? (t : Text) : Option Text := do
  let (year, t) ← fixedDigits? 4 t
  let (month, t) ← fixedDigits? 2 (← Text.after? '-' t)
  let (day, t) ← fixedDigits? 2 (← Text.after? '-' t)
  if 1 ≤ month ∧ month ≤ 12 ∧ 1 ≤ day ∧ day ≤ daysInMonth year month then some t else none

/-- What follows an hour and a minute at the start of a text. -/
def afterMinute? (t : Text) : Option Text := do
  let (hour, t) ← fixedDigits? 2 t
  let (minute, t) ← fixedDigits? 2 (← Text.after? ':' t)
  if hour ≤ 23 ∧ minute ≤ 59 then some t else none

/-- What follows a second at the start of a text, with its fraction. A minute may have a leap second. -/
def afterSecond? (t : Text) : Option Text := do
  let (second, t) ← fixedDigits? 2 t
  if 60 < second then none
  else
    match Text.after? '.' t with
    | none => some t
    | some t => if (t.takeWhile Char.isDigit).isEmpty then none else some (t.dropWhile Char.isDigit)

/-- What follows the time at the start of a text, which may do without seconds. -/
def afterTime? (t : Text) : Option Text := do
  let t ← afterMinute? t
  match Text.after? ':' t with
  | none => some t
  | some t => afterSecond? t

/-- A distance from universal time. -/
def isOffset : Text → Bool
  | ['Z'] => true
  | ['z'] => true
  | '+' :: t => afterMinute? t = some []
  | '-' :: t => afterMinute? t = some []
  | _ => false

def isDate (t : Text) : Bool :=
  afterDate? t = some []

def isTime (t : Text) : Bool :=
  afterTime? t = some []

/-- A time with or without an offset. -/
def isTimeOfDay (t : Text) : Bool :=
  (afterTime? t).any fun rest => rest = [] || isOffset rest

/-- A date, a time, or a date with a time after the letter between them. -/
def isMoment (t : Text) : Bool :=
  isTime t || (afterDate? t).any fun
    | [] => true
    | c :: rest => (c = 'T' || c = 't') && isTimeOfDay rest

end SwiftConnections
