import SwiftConnections.Logging.FieldPattern

namespace SwiftConnections

/-- How important an event is. -/
inductive LogLevel
  | error
  | warn
  | info
  | debug
  | trace
  deriving DecidableEq

namespace LogLevel

/-- The more detail an event is, the higher its number. -/
def detail : LogLevel → Nat
  | error => 1
  | warn => 2
  | info => 3
  | debug => 4
  | trace => 5

/-- The names of the amounts of detail from none on. -/
def detailNames : List Text :=
  ["off", "error", "warn", "info", "debug", "trace"]

/-- A letter in its small form, and any other character unchanged. -/
def small (t : Text) : Text :=
  t.map Char.toLower

/-- The amount of detail that a name or number asks for. A number may have a plus sign. -/
def ofText? (t : Text) : Option Nat :=
  match (Text.toNat? (if t.head? = some '+' then t.tail else t)).filter (· ≤ 5) with
  | some n => some n
  | none => detailNames.idxOf? (small t)

end LogLevel

/-- What is shown of the events that match: those of a target, in a span, with certain fields. -/
structure LogDirective where
  target : Option Text := none
  span : Option Text := none
  fields : List FieldPattern := []
  detail : Nat := 5
  deriving DecidableEq

/-- Why a filter is refused. -/
inductive FilterError
  | malformed
  | unknownLevel
  | invalidField (cause : RegexError)
  deriving DecidableEq

def FilterError.message : FilterError → Text
  | malformed => "invalid filter directive"
  | unknownLevel =>
    "error parsing level filter: expected one of \"off\", \"error\", \"warn\", \"info\", " ++
      "\"debug\", \"trace\", or a number 0-5"
  | invalidField cause => "invalid field filter: " ++ cause.message

namespace LogDirective

/-- The characters from one byte offset in UTF-8 up to another. -/
def slice (t : Text) (start stop : Nat) : Text :=
  match t with
  | [] => []
  | c :: rest =>
    let rest := slice rest (start - c.utf8Size) (stop - c.utf8Size)
    if start = 0 ∧ 0 < stop then c :: rest else rest

/-- What the scan of a directive is in the middle of, and at which offset that began. -/
inductive Part
  | start
  /-- A level, or the target that a level is for. -/
  | name (first : Nat)
  | span (first : Nat)
  | field (first : Nat)
  | fieldsEnd
  | spanEnd
  | level (first : Nat)
  deriving DecidableEq

/-- A directive may begin with this character. -/
def mayBegin (c : Char) : Bool :=
  isAlphanumeric c || c = '-' || c = ':' || c = '_'

/-- The scan after the character at an offset. Parts are cut from `piece`. -/
def scanChar (piece : Text) (scan : Part × LogDirective) (offset : Nat) (c : Char) :
    Except FilterError (Part × LogDirective) :=
  let (part, d) := scan
  match part, c with
  | .start, '[' => .ok (.span (offset + 1), d)
  | .start, c => if mayBegin c then .ok (.name offset, d) else .error .malformed
  | .name first, '=' => .ok (.level (offset + 1), { d with target := some (slice piece first offset) })
  | .name first, '[' => .ok (.span (offset + 1), { d with target := some (slice piece first offset) })
  | .name _, _ => .ok scan
  | .span first, ']' => .ok (.spanEnd, { d with span := some (slice piece first offset) })
  | .span first, '{' =>
    let name := slice piece first offset
    .ok (.field (offset + 1), { d with span := if name = [] then none else some name })
  | .span _, _ => .ok scan
  | .field first, '}' =>
    let text := slice piece first offset
    if text = [] then .error .malformed
    else
      match FieldPattern.ofText text with
      | .ok field => .ok (.fieldsEnd, { d with fields := d.fields ++ [field] })
      | .error cause => .error (.invalidField cause)
  | .field _, _ => .ok scan
  | .fieldsEnd, ']' => .ok (.spanEnd, d)
  | .spanEnd, '=' => .ok (.level (offset + 1), d)
  | .level _, _ => .ok scan
  | _, _ => .error .malformed

/-- The scan of all characters of a text that begins at an offset. -/
def scanText (piece : Text) (scan : Part × LogDirective) (offset : Nat) :
    Text → Except FilterError (Part × LogDirective)
  | [] => .ok scan
  | c :: rest => do scanText piece (← scanChar piece scan offset c) (offset + c.utf8Size) rest

/-- The text from a byte offset on. -/
def sliceFrom (t : Text) (start : Nat) : Text :=
  slice t start t.utf8Size

/-- The directive in a piece of a filter. Blanks around the piece are not scanned, but parts are cut from
the piece with its blanks. A name alone is a level if there is one of that name, and a target with all its
detail otherwise. -/
def ofText (piece : Text) : Except FilterError LogDirective := do
  let (part, d) ← scanText piece (.start, {}) 0 piece.trim
  match part with
  | .name first =>
    let name := sliceFrom piece first
    match LogLevel.ofText? name with
    | some detail => .ok { d with detail }
    | none => .ok { d with target := some name }
  | .level first =>
    let name := sliceFrom piece first
    if name = [] then .ok d
    else match LogLevel.ofText? name with
      | some detail => .ok { d with detail }
      | none => .error .unknownLevel
  | .spanEnd => .ok d
  | _ => .error .malformed

/-- The directive is about events outside of all spans, whatever the values of their fields. -/
def isStatic (d : LogDirective) : Bool :=
  d.span.isNone && d.fields.all fun f => !f.hasValue

/-- The length of the target. A directive without a target is further from all events than one with the empty
target. -/
def targetSize (d : LogDirective) : Nat :=
  (d.target.map fun t => t.utf8Size + 1).getD 0

/-- The texts that tell directives apart whose targets are equally long and whose fields are equally many. -/
def names (d : LogDirective) : List Text :=
  d.target.toList ++ d.fields.map (·.name)

/-- The first directive describes events more closely: its target is longer, or it has more fields. Names
make the order total. -/
def closer (a b : LogDirective) : Bool :=
  if a.targetSize ≠ b.targetSize then b.targetSize < a.targetSize
  else if a.fields.length ≠ b.fields.length then b.fields.length < a.fields.length
  else List.lex b.names a.names Text.precedes

/-- The directives with one more, in the place of one for the same target and fields. -/
def insert (d : LogDirective) : List LogDirective → List LogDirective
  | [] => [d]
  | e :: rest =>
    if d.closer e then d :: e :: rest
    else if d.target = e.target ∧ d.fields = e.fields then d :: rest
    else e :: insert d rest

end LogDirective

/-- Which events are shown: directives, the closest first. -/
structure LogFilter where
  directives : List LogDirective

namespace LogFilter

/-- The directives of a filter as it is written, with commas between them. -/
def directivesOf (t : Text) : Except FilterError (List LogDirective) :=
  ((Text.split t ',').filter (· ≠ [])).mapM LogDirective.ofText

/-- The filter that a text describes. Only events outside of spans occur, so other directives play no part. -/
def ofText (t : Text) : Except FilterError LogFilter := do
  let directives ← directivesOf t
  .ok ⟨(directives.filter (·.isStatic)).foldl (fun kept d => d.insert kept) []⟩

/-- The directive that decides about an event with this target and these fields. -/
def directive? (filter : LogFilter) (target : Text) (fields : List Text) : Option LogDirective :=
  filter.directives.find? fun d =>
    d.target.all (·.isPrefixOf target) && d.fields.all fun f => fields.contains f.name

/-- An event of this level is shown. -/
def shows (filter : LogFilter) (level : LogLevel) (target : Text) (fields : List Text) : Bool :=
  (filter.directive? target fields).any fun d => level.detail ≤ d.detail

end LogFilter

end SwiftConnections
