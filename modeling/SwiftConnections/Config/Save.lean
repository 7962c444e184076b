import SwiftConnections.Config.File
import SwiftConnections.Toml.Writer

namespace SwiftConnections

namespace Config

def booleanText (b : Bool) : Text :=
  if b then "true" else "false"

/-- The settings as the text of a configuration file. -/
def text (config : Config) : Text :=
  Text.unlines [
    "[codegen]",
    "file_naming = " ++ writeQuoted config.naming.name,
    "component = " ++ writeQuoted config.component,
    "helpers = " ++ booleanText config.helpers,
    [],
    "[logging]",
    "level = " ++ writeQuoted config.level]

/-- The files once the settings are saved under a path name. -/
def save (config : Config) (files : Files) (path : Text) : Files :=
  fun name => if name = path then some config.text.utf8 else files name

end Config

end SwiftConnections
