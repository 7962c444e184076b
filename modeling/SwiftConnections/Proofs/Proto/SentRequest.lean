import SwiftConnections.Proofs.Proto.RuleFields
import SwiftConnections.Proofs.Proto.WireReading

namespace SwiftConnections

namespace Field

/-- The number of a field. -/
def tag : Field → Nat
  | number n _ | eight n _ | text n _ | bytes n _ | message n _ => n

mutual

/-- The field is a known one of messages of this kind. -/
def Known (kind : MessageKind) : Field → Prop
  | number n value => kind.field? n = some .number ∧ value < 2 ^ 64
  | eight n value => kind.field? n = some .eight ∧ value.length = 8
  | text n _ => kind.field? n = some .text
  | bytes n _ => kind.field? n = some .bytes
  | message n fields => ∃ inner, kind.field? n = some (.message inner) ∧ AllKnown inner fields

def AllKnown (kind : MessageKind) : List Field → Prop
  | [] => True
  | field :: fields => Known kind field ∧ AllKnown kind fields

end

mutual

/-- How deep messages are nested in a field. -/
def nesting : Field → Nat
  | number _ _ | eight _ _ | text _ _ | bytes _ _ => 0
  | message _ fields => nestingAll fields + 1

def nestingAll : List Field → Nat
  | [] => 0
  | field :: fields => max field.nesting (nestingAll fields)

end

mutual

theorem fits_iff {depth : Nat} {kind : MessageKind} : (field : Field) →
    (field.Fits depth kind ↔ field.Known kind ∧ field.nesting ≤ depth)
  | number _ _ | eight _ _ | text _ _ | bytes _ _ => by simp [Fits, Known, nesting]
  | message n fields => by
    rw [Fits, Known, nesting]
    constructor
    · rintro ⟨inner, hf, hdepth, hfields⟩
      obtain ⟨hknown, hnesting⟩ := (fitAll_iff_known fields).mp hfields
      exact ⟨⟨inner, hf, hknown⟩, by omega⟩
    · rintro ⟨⟨inner, hf, hknown⟩, hnesting⟩
      exact ⟨inner, hf, by omega, (fitAll_iff_known fields).mpr ⟨hknown, by omega⟩⟩

theorem fitAll_iff_known {depth : Nat} {kind : MessageKind} : (fields : List Field) →
    (FitAll depth kind fields ↔ AllKnown kind fields ∧ nestingAll fields ≤ depth)
  | [] => by simp [FitAll, AllKnown, nestingAll]
  | field :: fields => by
    rw [FitAll, AllKnown, nestingAll, fits_iff field, fitAll_iff_known fields, Nat.max_le]
    exact and_and_and_comm

end

mutual

/-- A field in which messages are nested too deep is not read. -/
theorem decodeAll?_encode_of_deep {depth : Nat} {kind : MessageKind} (rest : Bytes) : (field : Field) →
    field.Known kind → depth < field.nesting → field.encode.length < 2 ^ 64 →
    decodeAll? depth kind (field.encode ++ rest) = none
  | number _ _, _, hdeep, _ | eight _ _, _, hdeep, _ | text _ _, _, hdeep, _ | bytes _ _, _, hdeep, _ =>
    absurd hdeep (Nat.not_lt_zero _)
  | message n fields, ⟨inner, hf, hfields⟩, hdeep, hsize => by
    have hnone : ofWire? depth n (.message inner) (.delimited (encodeAll fields)) = none := by
      rw [ofWire?]
      split
      next => rfl
      next hdepth =>
        rw [nesting] at hdeep
        rw [decodeAll?_encodeAll_of_deep fields hfields (by omega) (length_lt_of_delimited hsize), Option.map_none]
    rw [encode, decodeAll?_delimited hf hsize, hnone, Option.bind_none]

theorem decodeAll?_encodeAll_of_deep {depth : Nat} {kind : MessageKind} : (fields : List Field) →
    AllKnown kind fields → depth < nestingAll fields → (encodeAll fields).length < 2 ^ 64 →
    decodeAll? depth kind (encodeAll fields) = none
  | [], _, hdeep, _ => absurd hdeep (Nat.not_lt_zero _)
  | field :: fields, ⟨hfield, hfields⟩, hdeep, hsize => by
    rw [encodeAll, List.length_append] at hsize
    rw [encodeAll]
    by_cases hfirst : depth < field.nesting
    · exact decodeAll?_encode_of_deep _ field hfield hfirst (by omega)
    · rw [nestingAll] at hdeep
      have hfit := (fits_iff field).mpr ⟨hfield, Nat.not_lt.mp hfirst⟩
      rw [decodeAll?_encode (encodeAll fields) field hfit (by omega),
        decodeAll?_encodeAll_of_deep fields hfields (by omega) (by omega), Option.map_none]

end

variable {kind inner : MessageKind} {n : Nat}

theorem allKnown_iff {fields : List Field} : AllKnown kind fields ↔ ∀ field ∈ fields, field.Known kind := by
  induction fields with
  | nil => simp [AllKnown]
  | cons field fields ih => rw [AllKnown, ih, List.forall_mem_cons]

theorem allKnown_append {fields fields' : List Field} :
    AllKnown kind (fields ++ fields') ↔ AllKnown kind fields ∧ AllKnown kind fields' := by
  simp only [allKnown_iff, List.forall_mem_append]

theorem allKnown_ofText? (h : kind.field? n = some .text) (value : Option Text) : AllKnown kind (ofText? n value) := by
  cases value with
  | none => trivial
  | some value => exact ⟨h, trivial⟩

theorem allKnown_ofNonempty (h : kind.field? n = some .text) (value : Text) : AllKnown kind (ofNonempty n value) := by
  unfold ofNonempty
  split
  next => trivial
  next => exact ⟨h, trivial⟩

theorem allKnown_ofFlag? (h : kind.field? n = some .number) (value : Option Bool) :
    AllKnown kind (ofFlag? n value) := by
  cases value with
  | none => trivial
  | some value => exact ⟨⟨h, by cases value <;> decide⟩, trivial⟩

theorem allKnown_messages {α : Type} {items : List α} {fields : α → List Field} (h : kind.field? n = some (.message inner))
    (hi : ∀ a ∈ items, AllKnown inner (fields a)) : AllKnown kind (items.map fun a => message n (fields a)) := by
  rw [allKnown_iff, List.forall_mem_map]
  exact fun a ha => ⟨inner, h, hi a ha⟩

theorem allKnown_message? {α : Type} {item : Option α} {fields : α → List Field}
    (h : kind.field? n = some (.message inner)) (hi : ∀ a ∈ item, AllKnown inner (fields a)) :
    AllKnown kind (item.map fun a => message n (fields a)).toList := by
  cases item with
  | none => trivial
  | some a => exact ⟨⟨inner, h, hi a rfl⟩, trivial⟩

end Field

theorem HttpPattern.known_field (pattern : HttpPattern) : pattern.field.Known .httpRule := by
  cases pattern with
  | custom kind path =>
    have hkind : Field.AllKnown .customPattern (Field.ofNonempty 1 kind) := Field.allKnown_ofNonempty rfl kind
    have hpath : Field.AllKnown .customPattern (Field.ofNonempty 2 path) := Field.allKnown_ofNonempty rfl path
    exact ⟨.customPattern, rfl, Field.allKnown_append.mpr ⟨hkind, hpath⟩⟩
  | _ => rfl

theorem HttpRule.allKnown_fields (rule : HttpRule) : Field.AllKnown .httpRule rule.fields := by
  induction rule using induct with
  | step rule ih =>
    have hpattern : Field.AllKnown .httpRule (rule.pattern.map (·.field)).toList := by
      cases rule.pattern with
      | none => trivial
      | some pattern => exact ⟨pattern.known_field, trivial⟩
    have hadditional : Field.AllKnown .httpRule (additionalFields rule.additional) := by
      rw [additionalFields_eq]
      exact Field.allKnown_messages rfl ih
    rw [fields_eq]
    simp only [Field.allKnown_append]
    exact ⟨⟨⟨⟨Field.allKnown_ofNonempty rfl _, hpattern⟩, Field.allKnown_ofNonempty rfl _⟩, hadditional⟩,
      Field.allKnown_ofNonempty rfl _⟩

theorem MethodOptionsDecl.allKnown_fields (decl : MethodOptionsDecl) :
    Field.AllKnown .methodOptions decl.fields :=
  Field.allKnown_append.mpr ⟨Field.allKnown_ofFlag? rfl _,
    Field.allKnown_message? rfl fun rule _ => rule.allKnown_fields⟩

theorem MethodDecl.allKnown_fields (decl : MethodDecl) : Field.AllKnown .method decl.fields := by
  simp only [fields, Field.allKnown_append]
  exact ⟨⟨⟨⟨⟨Field.allKnown_ofText? rfl _, Field.allKnown_ofText? rfl _⟩, Field.allKnown_ofText? rfl _⟩,
    Field.allKnown_message? rfl fun options _ => options.allKnown_fields⟩, Field.allKnown_ofFlag? rfl _⟩,
    Field.allKnown_ofFlag? rfl _⟩

theorem ServiceDecl.allKnown_fields (decl : ServiceDecl) : Field.AllKnown .service decl.fields :=
  Field.allKnown_append.mpr ⟨Field.allKnown_ofText? rfl _,
    Field.allKnown_messages rfl fun m _ => m.allKnown_fields⟩

/-- Known fields of a message that nothing is read from. -/
structure Unread (kind : MessageKind) (read : List Nat) where
  fields : List Field
  known : Field.AllKnown kind fields
  unread : ∀ field ∈ fields, field.tag ∉ read

/-- A message type as it is sent, with all that its declaration says. -/
structure SentMessage where
  name : Option Text
  before : Unread .message [1, 3]
  nested : List SentMessage
  after : Unread .message [1, 3]

structure SentFileOptions where
  before : Unread .fileOptions [39]
  swiftPrefix : Option Text
  after : Unread .fileOptions [39]

structure SentFile where
  name : Option Text
  package : Option Text
  messages : List SentMessage
  services : List ServiceDecl
  options : Option SentFileOptions

/-- A request as it is sent. -/
structure SentRequest where
  filesToGenerate : List Text
  parameter : Option Text
  files : List SentFile

mutual

def SentMessage.fields : SentMessage → List Field
  | ⟨name, before, nested, after⟩ =>
    Field.ofText? 1 name ++ before.fields ++ SentMessage.fieldsOfAll 3 nested ++ after.fields

def SentMessage.fieldsOfAll (n : Nat) : List SentMessage → List Field
  | [] => []
  | m :: messages => .message n m.fields :: SentMessage.fieldsOfAll n messages

end

mutual

/-- What is read of a message type. -/
def SentMessage.decl : SentMessage → MessageDecl
  | ⟨name, _, nested, _⟩ => ⟨name, SentMessage.declAll nested⟩

def SentMessage.declAll : List SentMessage → List MessageDecl
  | [] => []
  | m :: messages => m.decl :: SentMessage.declAll messages

end

theorem SentMessage.fieldsOfAll_eq (n : Nat) (messages : List SentMessage) :
    fieldsOfAll n messages = messages.map fun m => .message n m.fields := by
  induction messages with
  | nil => rfl
  | cons m messages ih => rw [fieldsOfAll, ih, List.map_cons]

mutual

theorem SentMessage.allKnown_fields : (m : SentMessage) → Field.AllKnown .message m.fields
  | ⟨name, before, nested, after⟩ => by
    simp only [fields, fieldsOfAll_eq, Field.allKnown_append]
    exact ⟨⟨⟨Field.allKnown_ofText? rfl _, before.known⟩,
      Field.allKnown_messages rfl (SentMessage.allKnown_fields_of_mem nested)⟩, after.known⟩

theorem SentMessage.allKnown_fields_of_mem : (messages : List SentMessage) →
    ∀ m ∈ messages, Field.AllKnown .message m.fields
  | [] => fun _ hm => absurd hm List.not_mem_nil
  | m :: messages =>
    List.forall_mem_cons.mpr ⟨SentMessage.allKnown_fields m, SentMessage.allKnown_fields_of_mem messages⟩

end

def SentFileOptions.fields (options : SentFileOptions) : List Field :=
  options.before.fields ++ Field.ofText? 39 options.swiftPrefix ++ options.after.fields

def SentFileOptions.decl (options : SentFileOptions) : FileOptionsDecl where
  swiftPrefix := options.swiftPrefix

def SentFile.fields (file : SentFile) : List Field :=
  Field.ofText? 1 file.name ++ Field.ofText? 2 file.package ++ SentMessage.fieldsOfAll 4 file.messages ++
    file.services.map (fun s => .message 6 s.fields) ++
    (file.options.map fun options => Field.message 8 options.fields).toList

theorem SentFileOptions.allKnown_fields (options : SentFileOptions) :
    Field.AllKnown .fileOptions options.fields := by
  simp only [fields, Field.allKnown_append]
  exact ⟨⟨options.before.known, Field.allKnown_ofText? rfl _⟩, options.after.known⟩

theorem SentFile.allKnown_fields (file : SentFile) : Field.AllKnown .file file.fields := by
  simp only [fields, SentMessage.fieldsOfAll_eq, Field.allKnown_append]
  exact ⟨⟨⟨⟨Field.allKnown_ofText? rfl _, Field.allKnown_ofText? rfl _⟩,
    Field.allKnown_messages rfl fun m _ => m.allKnown_fields⟩,
    Field.allKnown_messages rfl fun s _ => s.allKnown_fields⟩,
    Field.allKnown_message? rfl fun options _ => options.allKnown_fields⟩

def SentFile.decl (file : SentFile) : FileDecl where
  name := file.name
  package := file.package
  messages := SentMessage.declAll file.messages
  services := file.services
  options := file.options.map (·.decl)

namespace SentRequest

def fields (sent : SentRequest) : List Field :=
  sent.filesToGenerate.map (Field.text 1) ++ Field.ofText? 2 sent.parameter ++
    sent.files.map fun f => .message 15 f.fields

/-- The request on the wire. -/
def encode (sent : SentRequest) : Bytes :=
  Field.encodeAll sent.fields

theorem allKnown_fields (sent : SentRequest) : Field.AllKnown .request sent.fields := by
  simp only [fields, Field.allKnown_append]
  refine ⟨⟨?_, Field.allKnown_ofText? rfl _⟩, Field.allKnown_messages rfl fun file _ => file.allKnown_fields⟩
  exact Field.allKnown_iff.mpr (List.forall_mem_map.mpr fun _ _ => rfl)

/-- What is read of the request. -/
def request (sent : SentRequest) : Request where
  filesToGenerate := sent.filesToGenerate
  parameter := sent.parameter
  files := sent.files.map (·.decl)

end SentRequest

/-- Nothing more is said. -/
def Unread.none (kind : MessageKind) (read : List Nat) : Unread kind read where
  fields := []
  known := trivial
  unread := fun _ hm => absurd hm List.not_mem_nil

mutual

def MessageDecl.sent : MessageDecl → SentMessage
  | ⟨name, nested⟩ => ⟨name, .none _ _, MessageDecl.sentAll nested, .none _ _⟩

def MessageDecl.sentAll : List MessageDecl → List SentMessage
  | [] => []
  | decl :: decls => decl.sent :: MessageDecl.sentAll decls

end

mutual

theorem MessageDecl.fields_sent : (decl : MessageDecl) → decl.sent.fields = decl.fields ∧ decl.sent.decl = decl
  | ⟨name, nested⟩ => by
    obtain ⟨hfields, hdecl⟩ := MessageDecl.fields_sentAll 3 nested
    rw [sent, SentMessage.fields, SentMessage.decl, fields, hfields, hdecl]
    simp [Unread.none]

theorem MessageDecl.fields_sentAll (n : Nat) : (decls : List MessageDecl) →
    SentMessage.fieldsOfAll n (sentAll decls) = fieldsOfAll n decls ∧ SentMessage.declAll (sentAll decls) = decls
  | [] => ⟨rfl, rfl⟩
  | decl :: decls => by
    obtain ⟨hfields, hdecl⟩ := MessageDecl.fields_sent decl
    obtain ⟨hrest, hdecls⟩ := MessageDecl.fields_sentAll n decls
    simp only [sentAll, SentMessage.fieldsOfAll, SentMessage.declAll, fieldsOfAll, hfields, hdecl, hrest, hdecls]
    trivial

end

def FileOptionsDecl.sent (options : FileOptionsDecl) : SentFileOptions :=
  ⟨.none _ _, options.swiftPrefix, .none _ _⟩

theorem FileOptionsDecl.fields_sent (options : FileOptionsDecl) : options.sent.fields = options.fields :=
  List.append_nil _

def FileDecl.sent (file : FileDecl) : SentFile :=
  ⟨file.name, file.package, MessageDecl.sentAll file.messages, file.services, file.options.map (·.sent)⟩

theorem FileDecl.fields_sent (file : FileDecl) : file.sent.fields = file.fields ∧ file.sent.decl = file := by
  have hmessages := MessageDecl.fields_sentAll 4 file.messages
  rw [sent, SentFile.fields, SentFile.decl, fields, hmessages.1, hmessages.2, Option.map_map, Option.map_map]
  simp only [Function.comp_def, FileOptionsDecl.fields_sent]
  exact ⟨trivial, congrArg (FileDecl.mk _ _ _ _) Option.map_id'⟩

/-- The request with nothing in it but what is read. -/
def Request.sent (request : Request) : SentRequest :=
  ⟨request.filesToGenerate, request.parameter, request.files.map (·.sent)⟩

theorem Request.fields_sent (request : Request) :
    request.sent.fields = request.fields ∧ request.sent.request = request := by
  rw [sent, SentRequest.fields, SentRequest.request, fields, List.map_map, List.map_map]
  simp only [Function.comp_def, FileDecl.fields_sent, List.map_id']
  trivial

end SwiftConnections
