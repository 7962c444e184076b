import SwiftConnections.Config.Save
import SwiftConnections.Proofs.Proto.WireReading
import SwiftConnections.Proofs.Toml.DocumentReading

namespace SwiftConnections

open Toml

namespace Config

/-- The lines of saved settings. -/
def savedLines (config : Config) : List Line :=
  [.header false ["codegen"],
    .entry ["file_naming"] (.text config.naming.name),
    .entry ["component"] (.text config.component),
    .entry ["helpers"] (.boolean config.helpers),
    .header false ["logging"],
    .entry ["level"] (.text config.level)]

theorem isValue_booleanText (b : Bool) : IsValue (booleanText b) (.boolean b) := by
  cases b
  · exact ⟨fun _ => rfl, fun _ => rfl⟩
  · exact ⟨fun _ => rfl, fun _ => rfl⟩

theorem read?_text (config : Config) : read? config.text = ofLines? config.savedLines := by
  have hcodegen : IsLine "[codegen]" (.header false ["codegen"]) := @isLine_header "codegen" (by decide)
  have hlogging : IsLine "[logging]" (.header false ["logging"]) := @isLine_header "logging" (by decide)
  have hnaming := @isLine_entry "file_naming" _ _ (by decide) (isValue_writeQuoted config.naming.name)
  have hcomponent := @isLine_entry "component" _ _ (by decide) (isValue_writeQuoted config.component)
  have hhelpers := @isLine_entry "helpers" _ _ (by decide) (isValue_booleanText config.helpers)
  have hlevel := @isLine_entry "level" _ _ (by decide) (isValue_writeQuoted config.level)
  exact AreLines.read? (.cons hcodegen (.cons hnaming (.cons hcomponent (.cons hhelpers (.blank (.cons hlogging
    (.cons hlevel .nil))))))) (fun hmark => absurd (Option.some.inj hmark) (by decide))

/-- The tables of saved settings. -/
def savedEntries (config : Config) : Entries :=
  [("codegen", .table .header [("file_naming", .text config.naming.name), ("component", .text config.component),
      ("helpers", .boolean config.helpers)]),
    ("logging", .table .header [("level", .text config.level)])]

theorem ofLines?_savedLines (config : Config) : ofLines? config.savedLines = some config.savedEntries := rfl

/-- Saved settings name every setting, so none of them is left at its default. -/
theorem config?_savedEntries (config : Config) : config? config.savedEntries = some config := by
  obtain ⟨naming, component, helpers, level⟩ := config
  cases naming <;> rfl

theorem validate_cases (config : Config) :
    config.validate = .ok config ∨ ∃ key value reason, config.validate = .error (.invalidValue key value reason) := by
  cases h : config.objection? with
  | none => exact .inl (by rw [validate, h])
  | some e =>
    refine .inr ?_
    rw [validate, h]
    unfold objection? at h
    split at h
    next => exact ⟨_, _, _, congrArg Except.error (Option.some.inj h).symm⟩
    split at h
    next => exact ⟨_, _, _, congrArg Except.error (Option.some.inj h).symm⟩
    split at h
    next => exact absurd h nofun
    next => exact ⟨_, _, _, congrArg Except.error (Option.some.inj h).symm⟩

/-- Saved settings are loaded as they are if there is no objection to them, and refused for the same reason else. -/
theorem ofFile_save (config : Config) (files : Files) (path : Text) :
    ofFile (config.save files path) path = config.validate ∧
      (config.validate = .ok config ∨
        ∃ key value reason, config.validate = .error (.invalidValue key value reason)) := by
  have hfile : (config.save files path path).bind Text.ofUtf8? = some config.text := by
    rw [save, if_pos rfl, Option.bind_some, Text.ofUtf8?_utf8]
  have hconfig : (read? config.text).bind config? = some config := by
    rw [read?_text, ofLines?_savedLines, Option.bind_some, config?_savedEntries]
  refine ⟨?_, config.validate_cases⟩
  rw [ofFile, hfile]
  change ofText config.text = _
  rw [ofText, hconfig]

end Config

end SwiftConnections
