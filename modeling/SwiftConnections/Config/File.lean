import SwiftConnections.Config.Basic
import SwiftConnections.Proto.Wire
import SwiftConnections.Toml.Reader

namespace SwiftConnections

/-- The contents of the files that can be read, by path name. -/
abbrev Files := Text → Option Bytes

namespace Toml

/-- The value under a key, and what it is read as, if it is there. -/
def field? {α : Type} (read? : Toml → Option α) (key : Text) (entries : Entries) : Option (Option α) :=
  match entries.lookup key with
  | none => some none
  | some value => (read? value).map some

/-- The value at a position of a list. -/
def item? {α : Type} (read? : Toml → Option α) (n : Nat) (items : List Toml) : Option (Option α) :=
  match items[n]? with
  | none => some none
  | some value => (read? value).map some

def asText? : Toml → Option Text
  | text value => some value
  | _ => none

def asBoolean? : Toml → Option Bool
  | boolean value => some value
  | _ => none

def isEmpty : Toml → Bool
  | array _ [] => true
  | table _ [] => true
  | _ => false

mutual

/-- The numbers in a value are readable. -/
def isReadable : Toml → Bool
  | number isReadable => isReadable
  | array _ items => areReadable items
  | table _ entries => areEntriesReadable entries
  | _ => true

def areReadable : List Toml → Bool
  | [] => true
  | item :: items => isReadable item && areReadable items

def areEntriesReadable : List (Text × Toml) → Bool
  | [] => true
  | (_, value) :: entries => isReadable value && areEntriesReadable entries

end

/-- The numbers under all keys but the known ones are readable. -/
def areOthersReadable (known : List Text) (entries : Entries) : Bool :=
  areEntriesReadable (entries.filter fun entry => !known.contains entry.1)

/-- A policy is given by its name, or as the only key of a table whose value holds nothing. -/
def asNaming? : Toml → Option FileNaming
  | text name => FileNaming.ofName? name
  | table _ [(name, value)] => if value.isEmpty then FileNaming.ofName? name else none
  | _ => none

/-- The settings changed by the section on generated code. A section that is a list gives them by position,
and one that is a moment gives none. -/
def applyCodegen? (config : Config) (value : Toml) : Option Config := do
  let (naming, component, helpers) ←
    match value with
    | table _ entries =>
      if areOthersReadable ["file_naming", "component", "helpers"] entries then
        some (← field? asNaming? "file_naming" entries, ← field? asText? "component" entries,
          ← field? asBoolean? "helpers" entries)
      else none
    | array _ items => some (← item? asNaming? 0 items, ← item? asText? 1 items, ← item? asBoolean? 2 items)
    | moment => some (none, none, none)
    | _ => none
  some { config with
    naming := naming.getD config.naming
    component := component.getD config.component
    helpers := helpers.getD config.helpers }

/-- The settings changed by the section on the log. -/
def applyLogging? (config : Config) (value : Toml) : Option Config := do
  let level ←
    match value with
    | table _ entries => if areOthersReadable ["level"] entries then field? asText? "level" entries else none
    | array _ items => item? asText? 0 items
    | moment => some none
    | _ => none
  some { config with level := level.getD config.level }

/-- The settings changed by the section under a key, if there is one. -/
def applySection? (change? : Config → Toml → Option Config) (key : Text) (entries : Entries)
    (config : Config) : Option Config :=
  match entries.lookup key with
  | none => some config
  | some value => change? config value

/-- The settings that a document gives. What it does not give stays at its default, and other keys play no
part as long as their numbers are readable. -/
def config? (entries : Entries) : Option Config := do
  let config ← applySection? applyCodegen? "codegen" entries {}
  let config ← applySection? applyLogging? "logging" entries config
  if areOthersReadable ["codegen", "logging"] entries then some config else none

end Toml

namespace Config

/-- The settings in the text of a configuration file. -/
def ofText (t : Text) : Except ConfigError Config :=
  match (Toml.read? t).bind Toml.config? with
  | none => .error .malformedFile
  | some config => config.validate

/-- The settings in a configuration file. -/
def ofFile (files : Files) (path : Text) : Except ConfigError Config :=
  match (files path).bind Text.ofUtf8? with
  | none => .error .unreadableFile
  | some text => ofText text

end Config

end SwiftConnections
