import SwiftConnections.Connections.Artifact
import SwiftConnections.Connections.Support
import SwiftConnections.Swift.Tidy

namespace SwiftConnections

/-- The comment at the top of a generated file, which names its source, and the imports. -/
def headerCode (source : Text) : List Step :=
  line "//" ++ line "// DO NOT EDIT." ++ line "//" ++
  line "// Generated by `protoc-gen-zap`." ++ line ("// Source: " ++ source) ++ line "//" ++ [.newline] ++
  line "#if !REMOTEONLY" ++ line "import Lndmobile" ++ line "#endif" ++ line "import Logger"

/-- The section of a service: a mark and its declarations. -/
def SwiftService.code (s : SwiftService) : List Step :=
  line ("// MARK: - " ++ s.name) ++ separated (Artifact.all.map (·.code s))

/-- The code of a file with an empty line before each of its sections. -/
def fileCode (source : Text) (helpers : Bool) (services : List SwiftService) : List Step :=
  headerCode source ++ (if helpers then [.newline] ++ Support.code else []) ++
    services.flatMap fun s => [.newline] ++ s.code

/-- The source text generated for a file. -/
def ProtoFile.swiftSource (types : TypeIndex) (helpers : Bool) (file : ProtoFile) :
    Except UnknownType Text := do
  let services ← file.swiftServices types
  pure (tidy (render 0 (fileCode file.name helpers services)))

end SwiftConnections
