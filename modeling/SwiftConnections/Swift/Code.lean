import SwiftConnections.Text

namespace SwiftConnections

/-- One step in the writing of indented code. -/
inductive Step
  /-- Text on the current line. -/
  | write (t : Text)
  /-- The end of the current line. -/
  | newline
  /-- One level deeper from here on. -/
  | indent
  /-- Back from the latest `indent` that was not taken back yet, if there is one. -/
  | dedent
  /-- A body that is one level deeper. -/
  | nested (body : List Step)
  deriving Inhabited

/-- The state of a writer of indented code. -/
structure Writer where
  /-- What a line starts with for each level of its depth. -/
  unit : Text
  level : Nat := 0
  /-- Nothing but blanks stands on the current line. -/
  atLineStart : Bool := true
  /-- How many of the levels come from `indent` steps. -/
  guards : Nat := 0
  /-- The number of bytes that may still be written, if there is a limit. -/
  room : Option Nat := none

/-- What a piece of writing came to: the writes that were accepted, in order, and whether none was refused. -/
structure Outcome where
  writes : List Text
  writer : Writer
  ok : Bool

namespace Outcome

/-- Nothing more to write. -/
def done (w : Writer) : Outcome :=
  ⟨[], w, true⟩

/-- Goes on unless a write was refused. -/
def andThen (o : Outcome) (next : Writer → Outcome) : Outcome :=
  if o.ok then
    let o' := next o.writer
    ⟨o.writes ++ o'.writes, o'.writer, o'.ok⟩
  else o

def text (o : Outcome) : Text :=
  o.writes.flatten

end Outcome

namespace Writer

/-- One write, which is accepted as a whole or refused as a whole. -/
def send (w : Writer) (t : Text) : Outcome :=
  match w.room with
  | none => ⟨[t], w, true⟩
  | some room =>
    if t.utf8Size ≤ room then ⟨[t], { w with room := some (room - t.utf8Size) }, true⟩ else ⟨[], w, false⟩

/-- The same write several times. -/
def sendTimes (t : Text) : (times : Nat) → Writer → Outcome
  | 0, w => .done w
  | n + 1, w => (w.send t).andThen (sendTimes t n)

/-- The start of a line that is about to hold `t`. Text of blanks alone starts no line. -/
def startLine (t : Text) (w : Writer) : Outcome :=
  if w.atLineStart && t.any fun c => !Text.isBlank c then
    (sendTimes w.unit w.level w).andThen fun w => .done { w with atLineStart := false }
  else .done w

def write (t : Text) (w : Writer) : Outcome :=
  if t = [] then .done w else (w.startLine t).andThen (·.send t)

def newline (w : Writer) : Outcome :=
  (w.send ['\n']).andThen fun w => .done { w with atLineStart := true }

def indent (w : Writer) : Writer :=
  { w with level := w.level + 1, guards := w.guards + 1 }

def dedent (w : Writer) : Writer :=
  if w.guards = 0 then w else { w with level := w.level - 1, guards := w.guards - 1 }

end Writer

/-- Another writer with the same writes. -/
def Outcome.mapWriter (f : Writer → Writer) (o : Outcome) : Outcome :=
  { o with writer := f o.writer }

mutual

def Step.run : Step → Writer → Outcome
  | .write t, w => w.write t
  | .newline, w => w.newline
  | .indent, w => .done w.indent
  | .dedent, w => .done w.dedent
  | .nested body, w =>
    (Step.runAll body { w with level := w.level + 1 }).mapWriter fun w => { w with level := w.level - 1 }

/-- The steps in order until a write is refused. -/
def Step.runAll : List Step → Writer → Outcome
  | [], w => .done w
  | step :: steps, w => (step.run w).andThen (Step.runAll steps)

end

/-- A line of code. -/
def line (t : Text) : List Step :=
  [.write t, .newline]

/-- The lines of a text, each indented as the code around it is. -/
def snippet (t : Text) : List Step :=
  t.lines.flatMap line

/-- Code between an opening and a closing line. -/
def enclosed (opening closing : Text) (body : List Step) : List Step :=
  line opening ++ [.nested body] ++ line closing

/-- Code between braces. -/
def block (header : Text) (body : List Step) : List Step :=
  enclosed (header ++ " \x7b") "\x7d" body

/-- Pieces of code with an empty line between them. -/
def separated (items : List (List Step)) : List Step :=
  List.intercalate [.newline] items

/-- The text of code at a depth, with four spaces for each level. -/
def render (level : Nat) (code : List Step) : Text :=
  (Step.runAll code { unit := "    ", level }).text

end SwiftConnections
