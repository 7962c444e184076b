import SwiftConnections.Text

namespace SwiftConnections

/-- A message type as its file declares it, with the types declared inside it. -/
structure MessageDecl where
  name : Option Text := none
  nested : List MessageDecl := []
  deriving Inhabited

/-- Where a message type is declared. -/
structure MessageRef where
  package : Text
  /-- The prefix that the declaring file asks for in Swift, if it does. -/
  swiftPrefix : Option Text
  /-- The names from the outermost message to the message itself. -/
  path : List Text
  deriving DecidableEq

namespace MessageRef

/-- The message's own name. -/
def name (m : MessageRef) : Text :=
  m.path.getLast?.getD []

/-- The name by which other files refer to the message: package and path with dots between them. -/
def qualifiedName (m : MessageRef) : Text :=
  if m.package = [] then Text.join "." m.path else m.package ++ "." ++ Text.join "." m.path

end MessageRef

mutual

/-- All messages of a declaration that stands inside `outer`: the nested ones, then the message itself. An
absent name counts as the empty one. -/
def MessageDecl.refs (package : Text) (swiftPrefix : Option Text) (outer : List Text) :
    MessageDecl → List MessageRef
  | ⟨name, nested⟩ =>
    let path := outer ++ [name.getD []]
    MessageDecl.refsOfAll package swiftPrefix path nested ++ [⟨package, swiftPrefix, path⟩]

def MessageDecl.refsOfAll (package : Text) (swiftPrefix : Option Text) (outer : List Text) :
    List MessageDecl → List MessageRef
  | [] => []
  | decl :: decls =>
    decl.refs package swiftPrefix outer ++ MessageDecl.refsOfAll package swiftPrefix outer decls

end

end SwiftConnections
