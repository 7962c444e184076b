import SwiftConnections.Proto.Request
import SwiftConnections.Proto.TypeIndex

namespace SwiftConnections

structure Method where
  name : Text
  /-- The reference to the type of the method's requests. -/
  input : Text
  /-- The reference to the type of the method's responses. -/
  output : Text
  clientStreaming : Bool
  serverStreaming : Bool
  options : MethodOptions

structure Service where
  name : Text
  methods : List Method

structure ProtoFile where
  /-- The path name of the file. -/
  name : Text
  package : Text
  swiftPrefix : Option Text
  services : List Service

/-- The files of a request, whose services and methods all have names, and their message types. -/
structure Model where
  files : List ProtoFile
  types : TypeIndex

/-- A declaration without a name, found by its position. -/
inductive MissingName
  | file (index : Nat)
  | service (path : Text) (index : Nat)
  | method (path owner : Text) (index : Nat)
  deriving DecidableEq

/-- What is missing and where. -/
def MissingName.message (e : MissingName) : Text :=
  let (kind, place, list, index) : Text × Text × Text × Nat :=
    match e with
    | .file index => ("file", [], "proto_file", index)
    | .service path index => ("service", path ++ " ", "service", index)
    | .method path owner index => ("method", path ++ " " ++ owner ++ " ", "method", index)
  kind ++ " descriptor at " ++ place ++ list ++ "[" ++ Text.ofNat index ++ "] has no name"

/-- A name that is there and not empty. -/
def nonemptyName (name : Option Text) (e : MissingName) : Except MissingName Text :=
  match name.filter (· ≠ []) with
  | some name => .ok name
  | none => .error e

def MethodOptionsDecl.options (decl : MethodOptionsDecl) : MethodOptions :=
  { deprecated := decl.deprecated.getD false, http := decl.http }

def Method.ofDecl (file service : Text) (decl : MethodDecl) (index : Nat) : Except MissingName Method := do
  let name ← nonemptyName decl.name (.method file service index)
  pure {
    name
    input := decl.input.getD []
    output := decl.output.getD []
    clientStreaming := decl.clientStreaming.getD false
    serverStreaming := decl.serverStreaming.getD false
    options := (decl.options.map (·.options)).getD {} }

def Service.ofDecl (file : Text) (decl : ServiceDecl) (index : Nat) : Except MissingName Service := do
  let name ← nonemptyName decl.name (.service file index)
  let methods ← decl.methods.zipIdx.mapM fun (m, i) => Method.ofDecl file name m i
  pure { name, methods }

def ProtoFile.ofDecl (decl : FileDecl) (index : Nat) : Except MissingName ProtoFile := do
  let name ← nonemptyName decl.name (.file index)
  let services ← decl.services.zipIdx.mapM fun (s, i) => Service.ofDecl name s i
  pure {
    name
    package := decl.package.getD []
    swiftPrefix := decl.options.bind (·.swiftPrefix)
    services }

namespace Model

/-- The message types of all files, indexed in the order of the files. -/
def typesOf (decls : List FileDecl) : TypeIndex :=
  decls.foldl (fun types decl =>
    types.insertFile (decl.package.getD []) (decl.options.bind (·.swiftPrefix)) decl.messages) .empty

/-- The model of a list of files, unless a file, service or method has no name: then the first of these. -/
def ofFiles (decls : List FileDecl) : Except MissingName Model := do
  let files ← decls.zipIdx.mapM fun (decl, i) => ProtoFile.ofDecl decl i
  pure { files, types := typesOf decls }

/-- The first file of that name. -/
def file? (model : Model) (name : Text) : Option ProtoFile :=
  model.files.find? (·.name = name)

end Model

end SwiftConnections
