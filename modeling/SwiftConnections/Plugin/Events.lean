import SwiftConnections.Logging.Event
import SwiftConnections.Plugin.Run

namespace SwiftConnections

/-- A run with this job and these settings begins. -/
def Event.decoded (job : Job) (config : Config) : Event where
  level := .debug
  target := "pipeline::orchestration"
  message := "Decoded request"
  fields := [("files", .number job.model.files.length), ("requested", .number job.filesToGenerate.length),
    ("naming", .plain config.naming.name)]

/-- Nothing is generated for a file. -/
def Event.noServices (file : ProtoFile) : Event where
  level := .trace
  target := "zap_logging"
  message := file.name ++ " declares no services"
  fields := [("module", .quoted "orchestration")]

/-- A file was generated. -/
def Event.generated (file : ProtoFile) (output : Text) : Event where
  level := .info
  target := "pipeline::orchestration"
  message := "Generated"
  fields := [("source", .plain file.name), ("output", .plain output),
    ("services", .number file.services.length)]

/-- The run was given up. -/
def Event.failed (e : RunError) : Event where
  level := .error
  target := "protoc_gen_zap"
  message := e.message

/-- What is remarkable about a method: it is not implemented, or not reached over HTTP. -/
def Method.event? (service : Text) (m : Method) : Option Event :=
  let remark (level : LogLevel) (message : Text) (more : List (Text × LogValue)) : Event :=
    { level, target := "zap_codegen::generators", message
      fields := ("service", .quoted service) :: ("method", .plain m.name) :: more }
  if m.shape.isSupported then
    match m.options.binding with
    | .ok _ => none
    | .error .noVersionedPath => some (remark .debug "No REST binding, emitting stub" [])
    | .error e => some (remark .warn "Unusable REST binding, emitting stub" [("reason", .plain e.message)])
  else
    some (remark .debug "Skipping method with unsupported streaming shape" [("shape", .quoted m.shape.name)])

/-- The types of the method's requests and responses are known. -/
def Method.resolves (types : TypeIndex) (m : Method) : Bool :=
  (types.get? m.input).isSome && (types.get? m.output).isSome

/-- The events of the methods of a file, through the first method whose types are not known. -/
def ProtoFile.methodEvents (types : TypeIndex) (file : ProtoFile) : List Event :=
  let methods := file.services.flatMap fun s => s.methods.map fun m => (s.name, m)
  let known := methods.takeWhile fun m => m.2.resolves types
  (methods.take (known.length + 1)).filterMap fun m => m.2.event? m.1

/-- The events of the generation of files with the names that a table gives. -/
def generationEvents (types : TypeIndex) (table : NameTable) : List ProtoFile → List Event
  | [] => []
  | file :: files =>
    if file.hasServices then
      file.methodEvents types ++
        match file.swiftServices types with
        | .error _ => []
        | .ok _ =>
          let (name, table) := table.claim file.name
          .generated file name :: generationEvents types table files
    else .noServices file :: generationEvents types table files

/-- The events of a job that has settings. -/
def Job.events (job : Job) (config : Config) : List Event :=
  .decoded job config :: generationEvents job.model.types config.nameTable job.model.files ++
    match job.respond config with
    | .ok _ => []
    | .error e => [.failed e]

end SwiftConnections
