import SwiftConnections.Words

namespace SwiftConnections

/-- A piece of a path between slashes: literal text, or the request field whose value stands there. -/
inductive PathSegment
  | literal (text : Text)
  | field (name : Text)
  deriving DecidableEq

/-- A path in which fields of the request may stand for segments. -/
structure PathTemplate where
  segments : List PathSegment
  deriving DecidableEq

def isBrace (c : Char) : Bool :=
  c = '{' || c = '}'

/-- A piece that starts with a brace names a field, whose dotted parts become camel case. -/
def PathSegment.ofPiece (piece : Text) : PathSegment :=
  if piece.head? = some '{' then
    field (Text.join "." (((piece.dropBothWhile isBrace).split '.').map lowerCamel))
  else literal piece

namespace PathTemplate

def ofPath (path : Text) : PathTemplate :=
  ⟨(path.split '/').map PathSegment.ofPiece⟩

/-- The fields of the path in order. -/
def parameters (template : PathTemplate) : List Text :=
  template.segments.filterMap fun
    | .literal _ => none
    | .field name => some name

/-- The path with each field written by `f`. -/
def render (f : Text → Text) (template : PathTemplate) : Text :=
  Text.join "/" <| template.segments.map fun
    | .literal text => text
    | .field name => f name

/-- The inside of a Swift string literal that interpolates the fields of `request`. -/
def swiftLiteral : PathTemplate → Text :=
  render fun name => "\\(request." ++ name ++ ")"

/-- The path with its fields in braces. -/
def display : PathTemplate → Text :=
  render fun name => "\x7b" ++ name ++ "\x7d"

end PathTemplate

end SwiftConnections
