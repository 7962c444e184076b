import SwiftConnections.Connections.Service
import SwiftConnections.Swift.Code

namespace SwiftConnections

/-- A declaration that is generated for each service. -/
inductive Artifact
  /-- The protocol of all connections to the service. -/
  | connection
  /-- The connection to the native library. -/
  | streaming
  | rpc
  | rest
  /-- A connection with canned responses. -/
  | mock
  deriving DecidableEq

/-- The declarations in the order in which they are generated. -/
def Artifact.all : List Artifact :=
  [connection, streaming, rpc, rest, mock]

namespace SwiftMethod

/-- Code for a method that is implemented, and only a mark for one that is not. -/
def codeOr (m : SwiftMethod) (code : List Step) : List Step :=
  if m.isSupported then code else line m.skipMark

def streamingFunction (m : SwiftMethod) : List Step :=
  block m.signature (line (m.bridge ++ "(try? request.serializedData(), LndCallback(completion))"))

/-- The function that waits for the next response of a stream. -/
def receiver (m : SwiftMethod) : Text :=
  "receive" ++ m.name ++ "Update"

def unaryCall (m : SwiftMethod) : List Step :=
  line ("_ = try? service." ++ m.function ++ "(request, completion: createHandler(completion))")

def openStream (m : SwiftMethod) : List Step :=
  snippet <| Text.unlines [
    "do \x7b",
    "    let call = try service." ++ m.function ++ "(request) \x7b Logger.error($0) \x7d",
    "    try " ++ m.receiver ++ "(call: call, completion: completion)",
    "\x7d catch \x7b",
    "    Logger.error(error)",
    "\x7d"]

/-- A response is handed on, and the wait for the next one begins unless the stream has ended. -/
def receiveFromStream (m : SwiftMethod) : List Step :=
  snippet <| Text.unlines [
    "try call.receive \x7b [weak self] in",
    "    do \x7b",
    "        guard try handleStreamResult($0, completion: completion) else \x7b return \x7d",
    "        try self?." ++ m.receiver ++ "(call: call, completion: completion)",
    "    \x7d catch \x7b\x7d",
    "\x7d"]

/-- The functions for a method over RPC, given the type of the service's calls, or a mark. -/
def rpcFunctions (m : SwiftMethod) (call : Text) : List Step :=
  match m.shape with
  | .unary => block m.signature m.unaryCall
  | .serverStreaming =>
    block m.signature m.openStream ++
      block ("private func " ++ m.receiver ++ "(call: " ++ call ++ ", completion: @escaping ApiCompletion<" ++
        m.output ++ ">) throws") m.receiveFromStream
  | .clientStreaming | .bidirectionalStreaming => line m.skipMark

/-- The call that sends a request, with the named data as its body. -/
def restCall (binding : HttpBinding) (body : Text) : List Step :=
  line ("lndRest.run(method: " ++ binding.verb.swift ++ ", path: \"" ++ binding.path.swiftLiteral ++
    "\", data: " ++ body ++ ", completion: completion)")

/-- A method without a binding only logs that it was called. -/
def restBody (m : SwiftMethod) : List Step :=
  match m.binding with
  | .ok binding =>
    if binding.hasBody then
      line "guard let json = try? request.jsonString() else \x7b return \x7d" ++ restCall binding "json"
    else restCall binding "nil"
  | .error _ => line ("Logger.error(\"" ++ m.name ++ " not implemented\", customPrefix: \"📺\")")

def restFunction (m : SwiftMethod) : List Step :=
  block m.signature m.restBody

/-- The property of a mock that holds the response to a method. -/
def mockProperty (m : SwiftMethod) : List Step :=
  line ("private let " ++ m.function ++ ": " ++ m.output ++ "?")

/-- The parameter that a mock takes for the response to a method. -/
def mockParameter (m : SwiftMethod) (separator : Text) : List Step :=
  line (m.function ++ ": " ++ m.output ++ "? = nil" ++ separator)

def mockAssignment (m : SwiftMethod) : List Step :=
  line ("self." ++ m.function ++ " = " ++ m.function)

def mockFunction (m : SwiftMethod) : List Step :=
  block m.signature (
    line ("completion(Result(value: " ++ m.function ++ ", error: LndApiError.unknownError))"))

/-- The position of the last method that is implemented. -/
def lastSupported? : List SwiftMethod → Option Nat
  | [] => none
  | m :: rest =>
    match lastSupported? rest with
    | some i => some (i + 1)
    | none => if m.isSupported then some 0 else none

/-- The parameter for the method at a position, with a comma unless that is the last one. -/
def mockParameterAt (last : Option Nat) (m : SwiftMethod) (i : Nat) : List Step :=
  m.codeOr (m.mockParameter (if some i = last then [] else ","))

def mockParameters (methods : List SwiftMethod) : List Step :=
  methods.zipIdx.flatMap fun p => mockParameterAt (lastSupported? methods) p.1 p.2

end SwiftMethod

namespace SwiftService

/-- The header of a type that conforms to the service's protocol. -/
def conforming (s : SwiftService) (kind typeName : Text) : Text :=
  kind ++ " " ++ typeName ++ ": " ++ s.names.connection

/-- Code for each method after an empty line. -/
def functions (s : SwiftService) (code : SwiftMethod → List Step) : List Step :=
  s.methods.flatMap fun m => [.newline] ++ code m

def connectionCode (s : SwiftService) : List Step :=
  block ("protocol " ++ s.names.connection) (s.methods.flatMap fun m => m.codeOr (line m.signature))

/-- The class exists only in builds with the native library. -/
def streamingCode (s : SwiftService) : List Step :=
  line "#if !REMOTEONLY" ++
    block (s.conforming "class" s.names.streaming) (
      s.methods.flatMap fun m => m.codeOr m.streamingFunction) ++
    line "#endif"

def rpcCode (s : SwiftService) : List Step :=
  block (s.conforming "final class" s.names.rpc) <|
    line ("let service: " ++ s.names.clientProtocol) ++ [.newline] ++
    block "public init(configuration: RPCCredentials)"
      (line ("service = " ++ s.names.client ++ "(configuration: configuration)")) ++
    s.functions fun m => m.rpcFunctions (s.names.call m.name)

def restCode (s : SwiftService) : List Step :=
  block (s.conforming "final class" s.names.rest) <|
    line "private let lndRest: LNDRest" ++ [.newline] ++
    block "init(lndRest: LNDRest)" (line "self.lndRest = lndRest") ++
    s.functions fun m => m.codeOr m.restFunction

def mockCode (s : SwiftService) : List Step :=
  block (s.conforming "class" s.names.mock) <|
    s.methods.flatMap (fun m => m.codeOr m.mockProperty) ++ [.newline] ++
    line "init(" ++ [.nested (SwiftMethod.mockParameters s.methods)] ++ line ") \x7b" ++
    [.nested ((s.methods.filter (·.isSupported)).flatMap (·.mockAssignment))] ++ line "\x7d" ++
    s.functions fun m => m.codeOr m.mockFunction

end SwiftService

def Artifact.code (s : SwiftService) : Artifact → List Step
  | connection => s.connectionCode
  | streaming => s.streamingCode
  | rpc => s.rpcCode
  | rest => s.restCode
  | mock => s.mockCode

end SwiftConnections
