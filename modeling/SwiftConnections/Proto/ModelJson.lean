import SwiftConnections.Json
import SwiftConnections.Proto.Model

namespace SwiftConnections

def Json.optional {α : Type} (f : α → Json) : Option α → Json
  | none => .null
  | some value => f value

/-- The variant's name with its path; only the custom variant has two parts. -/
def HttpPattern.json : HttpPattern → Json
  | get path => .object [("Get", .text path)]
  | put path => .object [("Put", .text path)]
  | post path => .object [("Post", .text path)]
  | delete path => .object [("Delete", .text path)]
  | patch path => .object [("Patch", .text path)]
  | custom kind path => .object [("Custom", .object [("kind", .text kind), ("path", .text path)])]

mutual

def HttpRule.json : HttpRule → Json
  | ⟨selector, pattern, body, additional, responseBody⟩ =>
    .object [("selector", .text selector), ("pattern", Json.optional HttpPattern.json pattern),
      ("body", .text body), ("additional_bindings", .array (HttpRule.jsonOfAll additional)),
      ("response_body", .text responseBody)]

def HttpRule.jsonOfAll : List HttpRule → List Json
  | [] => []
  | rule :: rules => rule.json :: HttpRule.jsonOfAll rules

end

def MethodOptions.json (options : MethodOptions) : Json :=
  .object [("deprecated", .bool options.deprecated), ("http", Json.optional HttpRule.json options.http)]

def Method.json (m : Method) : Json :=
  .object [("name", .text m.name), ("input_type", .text m.input), ("output_type", .text m.output),
    ("client_streaming", .bool m.clientStreaming), ("server_streaming", .bool m.serverStreaming),
    ("options", m.options.json)]

def Service.json (s : Service) : Json :=
  .object [("name", .text s.name), ("methods", .array (s.methods.map Method.json))]

def ProtoFile.json (f : ProtoFile) : Json :=
  .object [("name", .text f.name), ("package", .text f.package),
    ("swift_prefix", Json.optional Json.text f.swiftPrefix),
    ("services", .array (f.services.map Service.json))]

def MessageRef.json (m : MessageRef) : Json :=
  .object [("package", .text m.package), ("swift_prefix", Json.optional Json.text m.swiftPrefix),
    ("path", .array (m.path.map Json.text))]

/-- The messages under their qualified names. -/
def TypeIndex.json (index : TypeIndex) : Json :=
  .object [("messages", .object (index.messages.entries.map fun e => (e.1, e.2.json)))]

def Model.json (model : Model) : Json :=
  .object [("files", .array (model.files.map ProtoFile.json)), ("types", model.types.json)]

/-- The model as JSON over several lines, for inspection. -/
def Model.dump (model : Model) : Text :=
  model.json.pretty 0

end SwiftConnections
