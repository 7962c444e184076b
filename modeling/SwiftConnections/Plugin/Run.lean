import SwiftConnections.Config.Parameter
import SwiftConnections.Plugin.Response
import SwiftConnections.Proto.RequestFields

namespace SwiftConnections

/-- A request as the plugin works on it. -/
structure Job where
  filesToGenerate : List Text
  parameter : Option Text
  model : Model

/-- Why a run is given up. -/
inductive RunError
  | malformedRequest
  | missingName (e : MissingName)
  | config (e : ConfigError)
  | unknownType (e : UnknownType)
  deriving DecidableEq

def RunError.message : RunError → Text
  | malformedRequest => "Malformed CodeGeneratorRequest:"
  | missingName e => e.message
  | config e => e.message
  | unknownType e => e.message

/-- The job of a request, unless something in it has no name. -/
def Request.job (request : Request) : Except MissingName Job := do
  let model ← Model.ofFiles request.files
  pure { filesToGenerate := request.filesToGenerate, parameter := request.parameter, model }

namespace Job

/-- The job that the bytes of a request describe. -/
def ofBytes (input : Bytes) : Except RunError Job :=
  match Request.decode? input with
  | none => .error .malformedRequest
  | some request => request.job.mapError .missingName

def config (job : Job) (files : Files) : Except RunError Config :=
  (Config.ofParameter files job.parameter).mapError .config

def respond (job : Job) (config : Config) : Except RunError Response :=
  (job.model.generate config).mapError .unknownType

end Job

/-- The response to the bytes of a request. -/
def respond (files : Files) (input : Bytes) : Except RunError Response := do
  let job ← Job.ofBytes input
  let config ← job.config files
  job.respond config

/-- A place for output. -/
structure Sink where
  /-- The number of bytes that it takes, if there is a limit. -/
  room : Option Nat := none
  /-- It fails when all bytes are to be passed on. -/
  flushFails : Bool := false

/-- The bytes that a sink takes. -/
def Sink.accepted (sink : Sink) (bytes : Bytes) : Bytes :=
  match sink.room with
  | none => bytes
  | some room => bytes.take room

/-- The sink takes all bytes and passes them on. -/
def Sink.succeeds (sink : Sink) (bytes : Bytes) : Bool :=
  (sink.accepted bytes).length = bytes.length && !sink.flushFails

/-- Why nothing or not all was delivered. -/
inductive DeliveryError
  | run (e : RunError)
  | output
  deriving DecidableEq

/-- What a run wrote, and whether it failed. -/
structure Delivery where
  written : Bytes
  error? : Option DeliveryError

/-- A run from the bytes of a request to those of the response. Nothing is written before the response is
complete. -/
def run (files : Files) (input : Bytes) (sink : Sink) : Delivery :=
  match respond files input with
  | .error e => ⟨[], some (.run e)⟩
  | .ok response =>
    let bytes := response.encode
    ⟨sink.accepted bytes, if sink.succeeds bytes then none else some .output⟩

end SwiftConnections
