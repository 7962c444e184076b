import SwiftConnections.Plugin.Events
import SwiftConnections.Proto.ModelJson

namespace SwiftConnections

/-- What a run of the command line depends on beside its arguments. -/
structure Environment where
  /-- The bytes on standard input. -/
  input : Bytes
  files : Files
  /-- A filter of the log that goes before the one in the settings. -/
  filter : Option Text

/-- What a run of the command line comes to. -/
structure Report where
  exitCode : Nat
  output : Bytes := []
  log : Text := []

def helpText : Text :=
  Text.unlines [
    "protoc-gen-zap 0.1.0",
    [],
    "USAGE:",
    "    protoc --zap_out=<dir> [--zap_opt=<Key=Value,...>] <files>",
    "    protoc-gen-zap --dump-ir < request.bin",
    [],
    "OPTIONS (--zap_opt):",
    "    FileNaming=<FullPath|PathToUnderscores|DropPath>   Output naming policy (default FullPath)",
    "    Component=<name>                                   Marker in output names (default zap)",
    "    Helpers=<true|false>                               Emit the private helper section",
    "    LogLevel=<filter>                                  Log filter, overridden by ZAP_LOG",
    "    ConfigFile=<path>                                  TOML file with [codegen] and [logging]",
    [],
    "FLAGS:",
    "    --dump-ir                     Print the decoded descriptor model as JSON",
    "    --help, -h                    Show this help message"]

/-- The filter before there are settings. -/
def earlyLevel : Text :=
  "warn"

namespace Environment

/-- The filter of the log: the environment's own one if it is valid, and else the one at hand. -/
def logFilter (env : Environment) (level : Text) : LogFilter :=
  let own? := env.filter.bind fun t => (LogFilter.ofText t).toOption
  (own?.or (LogFilter.ofText level).toOption).getD ⟨[]⟩

/-- A run that is given up before there are settings. -/
def giveUp (env : Environment) (e : RunError) : Report where
  exitCode := 1
  log := (env.logFilter earlyLevel).log [.failed e]

/-- The model of the request as text. -/
def dump (env : Environment) : Report :=
  match Job.ofBytes env.input with
  | .error e => env.giveUp e
  | .ok job => { exitCode := 0, output := Text.utf8 (Text.unlines [job.model.dump]) }

/-- The run of the plugin with a job that has settings. -/
def runJob (env : Environment) (job : Job) (config : Config) : Report :=
  let log := (env.logFilter config.level).log (job.events config)
  match job.respond config with
  | .error _ => { exitCode := 1, log }
  | .ok response => { exitCode := 0, output := response.encode, log }

/-- The run of the plugin. -/
def runPlugin (env : Environment) : Report :=
  match Job.ofBytes env.input with
  | .error e => env.giveUp e
  | .ok job =>
    match job.config env.files with
    | .error e => env.giveUp e
    | .ok config => env.runJob job config

end Environment

/-- The arguments ask for help. -/
def asksForHelp (args : List Text) : Bool :=
  args.any fun a => a = ("--help" : Text) || a = ("-h" : Text)

/-- A run of the command line. Help goes before all else. -/
def commandLine (args : List Text) (env : Environment) : Report :=
  if asksForHelp args then { exitCode := 0, output := helpText.utf8 }
  else if args.any (· = ("--dump-ir" : Text)) then env.dump
  else env.runPlugin

/-- The configuration file that a request names, which is the only file that a run reads. -/
def configFileOf? (input : Bytes) : Option Text := do
  let job ← (Job.ofBytes input).toOption
  let entries ← (Config.entries (job.parameter.getD [])).toOption
  Config.fileOf? entries

end SwiftConnections
