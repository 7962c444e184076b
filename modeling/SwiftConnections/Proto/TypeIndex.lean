import SwiftConnections.Dictionary
import SwiftConnections.Proto.Message

namespace SwiftConnections

/-- The message types of all files by qualified name. -/
structure TypeIndex where
  messages : Dictionary MessageRef

namespace TypeIndex

def empty : TypeIndex :=
  ⟨Dictionary.empty⟩

/-- The index with a message, in place of an earlier one of the same qualified name. -/
def insert (index : TypeIndex) (m : MessageRef) : TypeIndex :=
  ⟨index.messages.insert m.qualifiedName m⟩

/-- The index with all messages that a file declares, nested messages before the one around them. -/
def insertFile (index : TypeIndex) (package : Text) (swiftPrefix : Option Text)
    (decls : List MessageDecl) : TypeIndex :=
  (MessageDecl.refsOfAll package swiftPrefix [] decls).foldl insert index

/-- The message that a type reference means. One dot at the start of the reference is not part of the name. -/
def get? (index : TypeIndex) (reference : Text) : Option MessageRef :=
  index.messages.get? (if reference.head? = some '.' then reference.tail else reference)

def size (index : TypeIndex) : Nat :=
  index.messages.size

end TypeIndex

end SwiftConnections
