import SwiftConnections.Proto.Field
import SwiftConnections.Proto.Request

namespace SwiftConnections

namespace Field

/-- A field that holds text, if there is one to hold. -/
def ofText? (n : Nat) (value : Option Text) : List Field :=
  (value.map (text n)).toList

/-- A field that holds text, unless it is empty. -/
def ofNonempty (n : Nat) (value : Text) : List Field :=
  if value = [] then [] else [text n value]

/-- A field that holds a truth value, if there is one to hold. -/
def ofFlag? (n : Nat) (value : Option Bool) : List Field :=
  (value.map fun b => number n b.toNat).toList

end Field

/-- The pattern after one more field of a rule: the last verb counts, but parts of a custom verb complete
it. -/
def HttpPattern.next (pattern : Option HttpPattern) : Field → Option HttpPattern
  | .text 2 path => some (.get path)
  | .text 3 path => some (.put path)
  | .text 4 path => some (.post path)
  | .text 5 path => some (.delete path)
  | .text 6 path => some (.patch path)
  | .message 8 parts =>
    let (kind, path) :=
      match pattern with
      | some (.custom kind path) => (kind, path)
      | _ => ([], [])
    some (.custom ((Field.text? 1 parts).getD kind) ((Field.text? 2 parts).getD path))
  | _ => pattern

def HttpPattern.field : HttpPattern → Field
  | get path => .text 2 path
  | put path => .text 3 path
  | post path => .text 4 path
  | delete path => .text 5 path
  | patch path => .text 6 path
  | custom kind path => .message 8 (Field.ofNonempty 1 kind ++ Field.ofNonempty 2 path)

/-- The rule that fields describe, given its further bindings. -/
def HttpRule.ofFieldsWith (additional : List HttpRule) (fields : List Field) : HttpRule where
  selector := (Field.text? 1 fields).getD []
  pattern := fields.foldl HttpPattern.next none
  body := (Field.text? 7 fields).getD []
  additional := additional
  responseBody := (Field.text? 12 fields).getD []

mutual

/-- The further binding that a field of a rule gives. -/
def HttpRule.additionalOfField? : Field → Option HttpRule
  | .message 11 inner => some (HttpRule.ofFieldsWith (HttpRule.additionalOfFields inner) inner)
  | _ => none

/-- The further bindings of a rule, each a rule of its own. -/
def HttpRule.additionalOfFields : List Field → List HttpRule
  | [] => []
  | field :: fields => (HttpRule.additionalOfField? field).toList ++ HttpRule.additionalOfFields fields

end

def HttpRule.ofFields (fields : List Field) : HttpRule :=
  HttpRule.ofFieldsWith (HttpRule.additionalOfFields fields) fields

mutual

def HttpRule.fields : HttpRule → List Field
  | ⟨selector, pattern, body, additional, responseBody⟩ =>
    Field.ofNonempty 1 selector ++ (pattern.map (·.field)).toList ++ Field.ofNonempty 7 body ++
      HttpRule.additionalFields additional ++ Field.ofNonempty 12 responseBody

def HttpRule.additionalFields : List HttpRule → List Field
  | [] => []
  | rule :: rules => .message 11 rule.fields :: HttpRule.additionalFields rules

end

mutual

/-- The message type declared at a field if it has this number. -/
def MessageDecl.ofField? (n : Nat) : Field → Option MessageDecl
  | .message m inner => if m = n then some ⟨Field.text? 1 inner, MessageDecl.allOfFields 3 inner⟩ else none
  | _ => none

/-- The message types declared at the fields with this number. -/
def MessageDecl.allOfFields (n : Nat) : List Field → List MessageDecl
  | [] => []
  | field :: fields => (MessageDecl.ofField? n field).toList ++ MessageDecl.allOfFields n fields

end

mutual

def MessageDecl.fields : MessageDecl → List Field
  | ⟨name, nested⟩ => Field.ofText? 1 name ++ MessageDecl.fieldsOfAll 3 nested

def MessageDecl.fieldsOfAll (n : Nat) : List MessageDecl → List Field
  | [] => []
  | decl :: decls => .message n decl.fields :: MessageDecl.fieldsOfAll n decls

end

def MethodOptionsDecl.ofFields (fields : List Field) : MethodOptionsDecl where
  deprecated := Field.flag? 33 fields
  http := (Field.message? httpRuleNumber fields).map HttpRule.ofFields

def MethodOptionsDecl.fields (decl : MethodOptionsDecl) : List Field :=
  Field.ofFlag? 33 decl.deprecated ++
    (decl.http.map fun rule => Field.message httpRuleNumber rule.fields).toList

def MethodDecl.ofFields (fields : List Field) : MethodDecl where
  name := Field.text? 1 fields
  input := Field.text? 2 fields
  output := Field.text? 3 fields
  options := (Field.message? 4 fields).map MethodOptionsDecl.ofFields
  clientStreaming := Field.flag? 5 fields
  serverStreaming := Field.flag? 6 fields

def MethodDecl.fields (decl : MethodDecl) : List Field :=
  Field.ofText? 1 decl.name ++ Field.ofText? 2 decl.input ++ Field.ofText? 3 decl.output ++
    (decl.options.map fun options => Field.message 4 options.fields).toList ++
    Field.ofFlag? 5 decl.clientStreaming ++ Field.ofFlag? 6 decl.serverStreaming

def ServiceDecl.ofFields (fields : List Field) : ServiceDecl where
  name := Field.text? 1 fields
  methods := (Field.messages 2 fields).map MethodDecl.ofFields

def ServiceDecl.fields (decl : ServiceDecl) : List Field :=
  Field.ofText? 1 decl.name ++ decl.methods.map fun m => .message 2 m.fields

def FileOptionsDecl.ofFields (fields : List Field) : FileOptionsDecl where
  swiftPrefix := Field.text? 39 fields

def FileOptionsDecl.fields (decl : FileOptionsDecl) : List Field :=
  Field.ofText? 39 decl.swiftPrefix

def FileDecl.ofFields (fields : List Field) : FileDecl where
  name := Field.text? 1 fields
  package := Field.text? 2 fields
  messages := MessageDecl.allOfFields 4 fields
  services := (Field.messages 6 fields).map ServiceDecl.ofFields
  options := (Field.message? 8 fields).map FileOptionsDecl.ofFields

def FileDecl.fields (decl : FileDecl) : List Field :=
  Field.ofText? 1 decl.name ++ Field.ofText? 2 decl.package ++ MessageDecl.fieldsOfAll 4 decl.messages ++
    decl.services.map (fun s => .message 6 s.fields) ++
    (decl.options.map fun options => Field.message 8 options.fields).toList

namespace Request

def ofFields (fields : List Field) : Request where
  filesToGenerate := Field.texts 1 fields
  parameter := Field.text? 2 fields
  files := (Field.messages 15 fields).map FileDecl.ofFields

def fields (request : Request) : List Field :=
  request.filesToGenerate.map (Field.text 1) ++ Field.ofText? 2 request.parameter ++
    request.files.map fun f => .message 15 f.fields

/-- The request that bytes carry, if they are well formed. -/
def decode? (bytes : Bytes) : Option Request :=
  (Field.decode? .request bytes).map ofFields

/-- The request as bytes. -/
def encode (request : Request) : Bytes :=
  Field.encodeAll request.fields

end Request

end SwiftConnections
