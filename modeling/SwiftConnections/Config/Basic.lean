import SwiftConnections.Logging.Filter
import SwiftConnections.OutputName

namespace SwiftConnections

/-- The settings of a run. -/
structure Config where
  naming : FileNaming := .default
  /-- The mark of the generator in the names of generated files. -/
  component : Text := "zap"
  /-- Generated files get the private declarations that their connections rely on. -/
  helpers : Bool := false
  /-- The filter of the log. -/
  level : Text := "warn"
  deriving DecidableEq

/-- Why there are no settings. -/
inductive ConfigError
  | unreadableFile
  | malformedFile
  | malformedEntry (entry : Text)
  | unknownOption (key : Text)
  | invalidValue (key value reason : Text)
  deriving DecidableEq

def ConfigError.message : ConfigError → Text
  | unreadableFile => "Failed to read config file:"
  | malformedFile => "Failed to parse config file:"
  | malformedEntry entry => "Malformed plugin parameter '" ++ entry ++ "', expected Key=Value"
  | unknownOption key =>
    "Unknown plugin option '" ++ key ++ "'. Supported: FileNaming, Component, Helpers, LogLevel, ConfigFile"
  | invalidValue key value reason => "Invalid value '" ++ value ++ "' for " ++ key ++ ": " ++ reason

namespace Config

/-- The character may stand in the mark of the generator. -/
def isComponentChar (c : Char) : Bool :=
  c.isAlphanum || c = '_'

/-- Why settings are refused, if they are. -/
def objection? (config : Config) : Option ConfigError :=
  if config.component = [] || config.component.any (!isComponentChar ·) then
    some (.invalidValue "Component" config.component
      "must be a non-empty identifier of ASCII letters, digits and '_'")
  else if config.level.trim = [] then some (.invalidValue "LogLevel" config.level "must not be empty")
  else
    match LogFilter.ofText config.level with
    | .ok _ => none
    | .error e => some (.invalidValue "LogLevel" config.level e.message)

/-- The settings if there is no objection to them. -/
def validate (config : Config) : Except ConfigError Config :=
  match config.objection? with
  | none => .ok config
  | some e => .error e

end Config

end SwiftConnections
