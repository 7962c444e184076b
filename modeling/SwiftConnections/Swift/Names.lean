import SwiftConnections.Proto.Model
import SwiftConnections.Words

namespace SwiftConnections

/-- The function for a method: its name with a small letter at the start. -/
def functionName : (method : Text) → Text
  | [] => []
  | c :: rest => lowerChar c ++ rest

/-- Services whose functions in the native library go without the service's name. -/
def plainBridgeServices : List Text :=
  ["WalletUnlocker", "Lightning"]

/-- What tells the native functions of a service from those of others. -/
def bridgePrefix (service : Text) : Text :=
  if plainBridgeServices.contains service then [] else service

/-- The native function for a method. -/
def bridgeFunction (service method : Text) : Text :=
  "Lndmobile" ++ bridgePrefix service ++ method

/-- What the type names of a file start with: the file's own prefix if it sets one, and else the parts of its
package in camel case, each followed by an underscore. -/
def typePrefix (package : Text) (swiftPrefix : Option Text) : Text :=
  match swiftPrefix with
  | some own => own
  | none => if package = [] then [] else Text.join "_" ((package.split '.').map upperCamel) ++ "_"

/-- Names that no message may have in Swift. -/
def reservedNames : List Text :=
  ["Any", "AnyObject", "Array", "Bool", "Character", "Data", "Decoder", "Dictionary", "Double", "Encoder",
    "Equatable", "Error", "Float", "Hashable", "Int", "Int32", "Int64", "Message", "Optional", "Protocol",
    "Result", "Self", "Set", "String", "Type", "UInt32", "UInt64", "Void"]

/-- A message's own name where nothing stands before it. -/
def unreserved (name : Text) : Text :=
  if reservedNames.contains name then name ++ "Message" else name

/-- The Swift type of a message. The prefix keeps an outermost message from being reserved. -/
def MessageRef.swiftName (m : MessageRef) : Text :=
  let start := typePrefix m.package m.swiftPrefix
  let path :=
    match m.path with
    | [] => []
    | outermost :: inner =>
      (if start = [] then unreserved outermost else outermost) :: inner.map unreserved
  start ++ Text.join "." path

/-- A type reference of a method that no message of the request answers to. -/
structure UnknownType where
  reference : Text
  method : Text
  deriving DecidableEq

def UnknownType.message (e : UnknownType) : Text :=
  "Unknown message type '" ++ e.reference ++ "' referenced by method " ++ e.method

/-- The Swift type that a reference in a method means. -/
def TypeIndex.swiftName (types : TypeIndex) (reference method : Text) : Except UnknownType Text :=
  match types.get? reference with
  | some m => .ok m.swiftName
  | none => .error ⟨reference, method⟩

/-- The names of the declarations that are generated for a service. -/
structure ServiceNames where
  /-- The protocol that all connections conform to. -/
  connection : Text
  /-- The connection to the native library. -/
  streaming : Text
  rpc : Text
  rest : Text
  mock : Text
  /-- The service's name behind the prefix of its package. -/
  qualified : Text
  deriving DecidableEq

namespace ServiceNames

def ofService (file : ProtoFile) (service : Text) : ServiceNames where
  connection := service ++ "Connection"
  streaming := "Streaming" ++ service ++ "Connection"
  rpc := "RPC" ++ service ++ "Connection"
  rest := "Rest" ++ service ++ "Connection"
  mock := "Mock" ++ service ++ "Connection"
  qualified := if file.package = [] then service else typePrefix file.package file.swiftPrefix ++ service

/-- The protocol of the service's RPC client. -/
def clientProtocol (names : ServiceNames) : Text :=
  names.qualified ++ "Service"

/-- The class of the service's RPC client. -/
def client (names : ServiceNames) : Text :=
  names.qualified ++ "ServiceClient"

/-- The type of a call that receives a stream. -/
def call (names : ServiceNames) (method : Text) : Text :=
  names.qualified ++ method ++ "Call"

end ServiceNames

end SwiftConnections
