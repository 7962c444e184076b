import SwiftConnections.Config.Basic
import SwiftConnections.Connections.File
import SwiftConnections.NameTable
import SwiftConnections.Proto.Field

namespace SwiftConnections

structure GeneratedFile where
  name : Text
  content : Text
  deriving DecidableEq

/-- What the plugin hands back to the compiler. -/
structure Response where
  files : List GeneratedFile
  deriving DecidableEq

/-- The file declares at least one service. -/
def ProtoFile.hasServices (file : ProtoFile) : Bool :=
  !file.services.isEmpty

/-- The table of output names at the start of a run. -/
def Config.nameTable (config : Config) : NameTable :=
  { component := config.component, naming := config.naming }

/-- One file for each file of the model that declares services, in order, unless a method refers to an
unknown type: then the first of these. -/
def Model.generate (model : Model) (config : Config) : Except UnknownType Response := do
  let sources := model.files.filter (·.hasServices)
  let contents ← sources.mapM (ProtoFile.swiftSource model.types config.helpers)
  let names := config.nameTable.claimAll (sources.map (·.name))
  pure ⟨List.zipWith GeneratedFile.mk names contents⟩

namespace Response

/-- The features of the protocol that the plugin supports, as the sum of their numbers: optional fields in
files of the third version. -/
def supportedFeatures : Nat :=
  1

def fields (response : Response) : List Field :=
  .number 2 supportedFeatures ::
    response.files.map fun f => .message 15 [.text 1 f.name, .text 15 f.content]

/-- The response as bytes. -/
def encode (response : Response) : Bytes :=
  Field.encodeAll response.fields

end Response

end SwiftConnections
