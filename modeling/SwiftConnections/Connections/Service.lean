import SwiftConnections.Http.Binding
import SwiftConnections.Proto.Streaming
import SwiftConnections.Swift.Names

namespace SwiftConnections

/-- A method with all that the connections need to know about it. -/
structure SwiftMethod where
  name : Text
  function : Text
  /-- The Swift type of its requests. -/
  input : Text
  /-- The Swift type of its responses. -/
  output : Text
  shape : StreamingShape
  bridge : Text
  /-- How it is reached over HTTP, or why it is not. -/
  binding : Except BindingError HttpBinding

def Method.shape (m : Method) : StreamingShape :=
  StreamingShape.ofFlags m.clientStreaming m.serverStreaming

namespace SwiftMethod

/-- The method of a service, unless the type of its requests or of its responses is unknown. -/
def ofMethod (types : TypeIndex) (service : Text) (m : Method) : Except UnknownType SwiftMethod := do
  let input ← types.swiftName m.input m.name
  let output ← types.swiftName m.output m.name
  pure {
    name := m.name
    function := functionName m.name
    input
    output
    shape := m.shape
    bridge := bridgeFunction service m.name
    binding := m.options.binding }

/-- The connections implement the method. -/
def isSupported (m : SwiftMethod) : Bool :=
  m.shape.isSupported

/-- The declaration of the method's function, without a body. -/
def signature (m : SwiftMethod) : Text :=
  "func " ++ m.function ++ "(_ request: " ++ m.input ++
    ", completion: @escaping ApiCompletion<" ++ m.output ++ ">)"

/-- What stands in the place of a method that is not implemented. -/
def skipMark (m : SwiftMethod) : Text :=
  "// skipped: " ++ m.function

end SwiftMethod

/-- A service with all that the connections need to know about it. -/
structure SwiftService where
  name : Text
  names : ServiceNames
  methods : List SwiftMethod

namespace SwiftService

def ofService (types : TypeIndex) (file : ProtoFile) (s : Service) : Except UnknownType SwiftService := do
  let methods ← s.methods.mapM (SwiftMethod.ofMethod types s.name)
  pure { name := s.name, names := ServiceNames.ofService file s.name, methods }

end SwiftService

/-- The services of a file, unless one of their methods refers to an unknown type: then the first of these. -/
def ProtoFile.swiftServices (types : TypeIndex) (file : ProtoFile) : Except UnknownType (List SwiftService) :=
  file.services.mapM (SwiftService.ofService types file)

end SwiftConnections
