import SwiftConnections.Logging.Filter
import SwiftConnections.Unicode.Printable

namespace SwiftConnections

/-- The value of a field of an event. -/
inductive LogValue
  /-- Written as it is. -/
  | plain (t : Text)
  /-- Written between quotation marks. -/
  | quoted (t : Text)
  | number (n : Nat)

/-- Something that happened in a run. -/
structure Event where
  level : LogLevel
  /-- The part of the program where it happened. -/
  target : Text
  message : Text
  fields : List (Text × LogValue) := []

/-- A number in hexadecimal digits. -/
def hexText (n : Nat) : Text :=
  Nat.toDigits 16 n

/-- The code of a character in braces. -/
def codeEscape (c : Char) : Text :=
  "\\u\x7b" ++ hexText c.toNat ++ "\x7d"

namespace LogValue

/-- A character as it is written between quotation marks. -/
def quotedChar (c : Char) : Text :=
  match c with
  | '\x00' => "\\0"
  | '\t' => "\\t"
  | '\r' => "\\r"
  | '\n' => "\\n"
  | '"' => "\\\""
  | '\\' => "\\\\"
  | c => if isPrintable c then [c] else codeEscape c

def text : LogValue → Text
  | plain t => t
  | quoted t => "\"" ++ t.flatMap quotedChar ++ "\""
  | number n => Text.ofNat n

end LogValue

namespace Event

/-- A character of a message. Those that steer a terminal are written by their codes. -/
def messageChar (c : Char) : Text :=
  match c with
  | '\x1b' => "\\x1b"
  | '\x07' => "\\x07"
  | '\x08' => "\\x08"
  | '\x0c' => "\\x0c"
  | '\x7f' => "\\x7f"
  | c => if '\u0080' ≤ c && c ≤ '\u009f' then codeEscape c else [c]

/-- The name of a level to the right of five columns. -/
def levelText : LogLevel → Text
  | .error => "ERROR"
  | .warn => " WARN"
  | .info => " INFO"
  | .debug => "DEBUG"
  | .trace => "TRACE"

/-- A field behind a blank. -/
def fieldText (f : Text × LogValue) : Text :=
  " " ++ f.1 ++ "=" ++ f.2.text

/-- The event as it is logged. -/
def text (e : Event) : Text :=
  levelText e.level ++ " " ++ e.message.flatMap messageChar ++ e.fields.flatMap fieldText

/-- The names of all that is known of the event, its message included. -/
def fieldNames (e : Event) : List Text :=
  "message" :: e.fields.map (·.1)

end Event

/-- The filter shows the event. -/
def LogFilter.showsEvent (filter : LogFilter) (e : Event) : Bool :=
  filter.shows e.level e.target e.fieldNames

/-- The log of a list of events. -/
def LogFilter.log (filter : LogFilter) (events : List Event) : Text :=
  Text.unlines ((events.filter filter.showsEvent).map (·.text))

end SwiftConnections
