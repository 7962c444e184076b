import SwiftConnections.Config.File

namespace SwiftConnections

namespace Config

/-- The key and the value of an entry of the plugin's parameter. -/
def entry (t : Text) : Except ConfigError (Text × Text) :=
  match Text.cut? t "=" with
  | none => .error (.malformedEntry t)
  | some (key, value) => if key.trim = [] then .error (.malformedEntry t) else .ok (key.trim, value.trim)

/-- The entries of the plugin's parameter, with commas between them. -/
def entries (parameter : Text) : Except ConfigError (List (Text × Text)) :=
  (((Text.split parameter ',').map Text.trim).filter (· ≠ [])).mapM entry

/-- The configuration file that entries name: the last one of several. -/
def fileOf? (entries : List (Text × Text)) : Option Text :=
  entries.reverse.lookup ("ConfigFile" : Text)

/-- The settings after an entry. The configuration file has been read before all entries. -/
def apply (config : Config) (entry : Text × Text) : Except ConfigError Config :=
  let (key, value) := entry
  if key = "FileNaming" then
    match FileNaming.ofName? value with
    | some naming => .ok { config with naming }
    | none => .error (.invalidValue key value (FileNaming.unknownMessage value))
  else if key = "Component" then .ok { config with component := value }
  else if key = "Helpers" then
    if value = "true" then .ok { config with helpers := true }
    else if value = "false" then .ok { config with helpers := false }
    else .error (.invalidValue key value "expected true or false")
  else if key = "LogLevel" then .ok { config with level := value }
  else if key = "ConfigFile" then .ok config
  else .error (.unknownOption key)

/-- The settings that the plugin's parameter gives, on top of those in the configuration file that it names.
-/
def ofParameter (files : Files) (parameter : Option Text) : Except ConfigError Config := do
  let entries ← entries (parameter.getD [])
  let base ←
    match fileOf? entries with
    | some path => ofFile files path
    | none => .ok {}
  let config ← entries.foldlM apply base
  config.validate

end Config

end SwiftConnections
