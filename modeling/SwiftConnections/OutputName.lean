import SwiftConnections.ProtoPath

namespace SwiftConnections

/-- What becomes of a source file's directory in the name of the generated file. -/
inductive FileNaming
  | fullPath
  | pathToUnderscores
  | dropPath
  deriving DecidableEq

namespace FileNaming

/-- The policy's name in plugin parameters and configuration files. -/
def name : FileNaming → Text
  | fullPath => "FullPath"
  | pathToUnderscores => "PathToUnderscores"
  | dropPath => "DropPath"

def all : List FileNaming :=
  [fullPath, pathToUnderscores, dropPath]

/-- The policy that holds where none is chosen. -/
def default : FileNaming :=
  fullPath

def ofName? (t : Text) : Option FileNaming :=
  all.find? (·.name = t)

/-- Why a text that names no policy is refused. -/
def unknownMessage (t : Text) : Text :=
  "Unknown file naming policy '" ++ t ++ "'. Supported: " ++ Text.join ", " (all.map name)

/-- The directory part as the policy keeps it. -/
def directory : FileNaming → Text → Text
  | fullPath, dir => dir
  | pathToUnderscores, dir => dir.map fun c => if c = '/' then '_' else c
  | dropPath, _ => []

end FileNaming

/-- The name of the file generated from the source file at `path`: the component marks the generator. -/
def outputName (component : Text) (naming : FileNaming) (path : Text) : Text :=
  let parts := PathParts.ofPath path
  naming.directory parts.dir ++ parts.base ++ "." ++ component ++ ".swift"

end SwiftConnections
