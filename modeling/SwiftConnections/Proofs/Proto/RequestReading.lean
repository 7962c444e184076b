import SwiftConnections.Plugin.Run
import SwiftConnections.Proofs.Except
import SwiftConnections.Proofs.Proto.SentRequest

namespace SwiftConnections

namespace Field

/-- The fields with this number. -/
def tagged (n : Nat) (fields : List Field) : List Field :=
  fields.filter (·.tag = n)

variable {n m : Nat} {fields : List Field}

@[simp] theorem tagged_append (n : Nat) (fields fields' : List Field) :
    tagged n (fields ++ fields') = tagged n fields ++ tagged n fields' :=
  List.filter_append _ _

theorem tagged_of_forall (h : ∀ field ∈ fields, field.tag = m) : tagged n fields = if m = n then fields else [] := by
  split
  next hn => exact List.filter_eq_self.mpr fun field hm => decide_eq_true ((h field hm).trans hn)
  next hn => exact List.filter_eq_nil_iff.mpr fun field hm => by simp [h field hm, hn]

@[simp] theorem tagged_ofText? (n m : Nat) (value : Option Text) :
    tagged n (ofText? m value) = if m = n then ofText? m value else [] :=
  tagged_of_forall (by cases value <;> simp [ofText?, tag])

@[simp] theorem tagged_ofFlag? (n m : Nat) (value : Option Bool) :
    tagged n (ofFlag? m value) = if m = n then ofFlag? m value else [] :=
  tagged_of_forall (by cases value <;> simp [ofFlag?, tag])

@[simp] theorem tagged_map_text (n m : Nat) (values : List Text) :
    tagged n (values.map (text m)) = if m = n then values.map (text m) else [] :=
  tagged_of_forall (List.forall_mem_map.mpr fun _ _ => rfl)

@[simp] theorem tagged_map_message {α : Type} (n m : Nat) (items : List α) (f : α → List Field) :
    tagged n (items.map fun a => message m (f a)) = if m = n then items.map fun a => message m (f a) else [] :=
  tagged_of_forall (List.forall_mem_map.mpr fun _ _ => rfl)

@[simp] theorem tagged_message? {α : Type} (n m : Nat) (item : Option α) (f : α → List Field) :
    tagged n (item.map fun a => message m (f a)).toList =
      if m = n then (item.map fun a => message m (f a)).toList else [] :=
  tagged_of_forall (by cases item <;> simp [tag])

/-- Where only fields with one number count, the others may be left out. -/
theorem filterMap_tagged {β : Type} {f : Field → Option β} (h : ∀ field, field.tag ≠ n → f field = none)
    (fields : List Field) : (tagged n fields).filterMap f = fields.filterMap f := by
  rw [tagged, List.filterMap_filter]
  refine List.filterMap_congr fun field _ => ?_
  by_cases hn : field.tag = n
  · rw [decide_eq_true hn, if_pos rfl]
  · rw [decide_eq_false hn, if_neg Bool.false_ne_true, h field hn]

theorem texts_tagged (n : Nat) (fields : List Field) : texts n (tagged n fields) = texts n fields :=
  filterMap_tagged (fun field hn => by cases field <;> simp_all [tag]) fields

/-- The truth values of all fields with this number. -/
def flags (n : Nat) (fields : List Field) : List Bool :=
  fields.filterMap fun
    | number m value => if m = n then some (value != 0) else none
    | _ => none

theorem flags_tagged (n : Nat) (fields : List Field) : flags n (tagged n fields) = flags n fields :=
  filterMap_tagged (fun field hn => by cases field <;> simp_all [tag]) fields

theorem messages_tagged (n : Nat) (fields : List Field) : messages n (tagged n fields) = messages n fields :=
  filterMap_tagged (fun field hn => by cases field <;> simp_all [tag]) fields

theorem texts_of_tagged {values : List Text} (h : tagged n fields = values.map (text n)) : texts n fields = values := by
  rw [← texts_tagged, h, texts, List.filterMap_map]
  simp

theorem text?_of_tagged {value : Option Text} (h : tagged n fields = ofText? n value) : text? n fields = value := by
  rw [text?, ← texts_tagged, h]
  cases value <;> simp [ofText?, texts]

theorem flag?_of_tagged {value : Option Bool} (h : tagged n fields = ofFlag? n value) : flag? n fields = value := by
  have hflags : flag? n fields = (flags n fields).getLast? := rfl
  rw [hflags, ← flags_tagged, h]
  cases value with
  | none => rfl
  | some value => cases value <;> simp [ofFlag?, flags]

theorem messages_of_tagged {α : Type} {items : List α} {f : α → List Field}
    (h : tagged n fields = items.map fun a => message n (f a)) : messages n fields = items.map f := by
  rw [← messages_tagged, h, messages, List.filterMap_map]
  simp

theorem message?_of_tagged {α : Type} {item : Option α} {f : α → List Field}
    (h : tagged n fields = (item.map fun a => message n (f a)).toList) : message? n fields = item.map f := by
  rw [message?, ← messages_tagged, h]
  cases item <;> simp [messages]

end Field

theorem Unread.tagged {kind : MessageKind} {read : List Nat} (u : Unread kind read) {n : Nat} (h : n ∈ read) :
    Field.tagged n u.fields = [] :=
  List.filter_eq_nil_iff.mpr fun field hm => by
    have hunread := u.unread field hm
    simp only [decide_eq_true_eq]
    rintro rfl
    exact hunread h

theorem MethodOptionsDecl.ofFields_fields (decl : MethodOptionsDecl) : ofFields decl.fields = decl := by
  have hdeprecated : Field.flag? 33 decl.fields = decl.deprecated :=
    Field.flag?_of_tagged (by simp [fields, httpRuleNumber])
  have hhttp : Field.message? httpRuleNumber decl.fields = decl.http.map (·.fields) :=
    Field.message?_of_tagged (by simp [fields, httpRuleNumber])
  rw [ofFields, hdeprecated, hhttp, Option.map_map]
  simp [Function.comp_def, HttpRule.ofFields_fields]

theorem MethodDecl.ofFields_fields (decl : MethodDecl) : ofFields decl.fields = decl := by
  have hname : Field.text? 1 decl.fields = decl.name := Field.text?_of_tagged (by simp [fields])
  have hinput : Field.text? 2 decl.fields = decl.input := Field.text?_of_tagged (by simp [fields])
  have houtput : Field.text? 3 decl.fields = decl.output := Field.text?_of_tagged (by simp [fields])
  have hoptions : Field.message? 4 decl.fields = decl.options.map (·.fields) :=
    Field.message?_of_tagged (by simp [fields])
  have hclient : Field.flag? 5 decl.fields = decl.clientStreaming := Field.flag?_of_tagged (by simp [fields])
  have hserver : Field.flag? 6 decl.fields = decl.serverStreaming := Field.flag?_of_tagged (by simp [fields])
  rw [ofFields, hname, hinput, houtput, hoptions, hclient, hserver, Option.map_map]
  simp [Function.comp_def, MethodOptionsDecl.ofFields_fields]

theorem ServiceDecl.ofFields_fields (decl : ServiceDecl) : ofFields decl.fields = decl := by
  have hname : Field.text? 1 decl.fields = decl.name := Field.text?_of_tagged (by simp [fields])
  have hmethods : Field.messages 2 decl.fields = decl.methods.map (·.fields) :=
    Field.messages_of_tagged (by simp [fields])
  rw [ofFields, hname, hmethods, List.map_map]
  simp [Function.comp_def, MethodDecl.ofFields_fields]

theorem MessageDecl.allOfFields_eq (n : Nat) (fields : List Field) :
    allOfFields n fields = (Field.messages n fields).map fun inner => ⟨Field.text? 1 inner, allOfFields 3 inner⟩ := by
  induction fields with
  | nil => rfl
  | cons field fields ih =>
    rw [allOfFields, ih]
    cases field with
    | message m inner => by_cases h : m = n <;> simp [ofField?, Field.messages, h]
    | _ => rfl

namespace SentMessage

mutual

/-- The declaration at the fields of a message is what is read of it, whatever else it says. -/
theorem ofFields_fields : (m : SentMessage) →
    (⟨Field.text? 1 m.fields, MessageDecl.allOfFields 3 m.fields⟩ : MessageDecl) = m.decl
  | ⟨name, before, nested, after⟩ => by
    have hname : Field.text? 1 (fields ⟨name, before, nested, after⟩) = name :=
      Field.text?_of_tagged (by simp [fields, fieldsOfAll_eq, Unread.tagged])
    have hnested : Field.messages 3 (fields ⟨name, before, nested, after⟩) = nested.map (·.fields) :=
      Field.messages_of_tagged (by simp [fields, fieldsOfAll_eq, Unread.tagged])
    rw [hname, MessageDecl.allOfFields_eq, hnested, ofFields_all nested, decl]

theorem ofFields_all : (messages : List SentMessage) →
    ((messages.map (·.fields)).map fun inner =>
      (⟨Field.text? 1 inner, MessageDecl.allOfFields 3 inner⟩ : MessageDecl)) = declAll messages
  | [] => rfl
  | m :: messages => by
    rw [List.map_cons, List.map_cons, ofFields_fields m, ofFields_all messages, declAll]

end

end SentMessage

theorem SentFileOptions.ofFields_fields (options : SentFileOptions) :
    FileOptionsDecl.ofFields options.fields = options.decl := by
  have hprefix : Field.text? 39 options.fields = options.swiftPrefix :=
    Field.text?_of_tagged (by simp [fields, Unread.tagged])
  rw [FileOptionsDecl.ofFields, hprefix, decl]

theorem SentFile.ofFields_fields (file : SentFile) : FileDecl.ofFields file.fields = file.decl := by
  have hname : Field.text? 1 file.fields = file.name :=
    Field.text?_of_tagged (by simp [fields, SentMessage.fieldsOfAll_eq])
  have hpackage : Field.text? 2 file.fields = file.package :=
    Field.text?_of_tagged (by simp [fields, SentMessage.fieldsOfAll_eq])
  have hmessages : Field.messages 4 file.fields = file.messages.map (·.fields) :=
    Field.messages_of_tagged (by simp [fields, SentMessage.fieldsOfAll_eq])
  have hservices : Field.messages 6 file.fields = file.services.map (·.fields) :=
    Field.messages_of_tagged (by simp [fields, SentMessage.fieldsOfAll_eq])
  have hoptions : Field.message? 8 file.fields = file.options.map (·.fields) :=
    Field.message?_of_tagged (by simp [fields, SentMessage.fieldsOfAll_eq])
  rw [FileDecl.ofFields, hname, hpackage, MessageDecl.allOfFields_eq, hmessages, SentMessage.ofFields_all, hservices,
    hoptions, List.map_map, Option.map_map]
  simp [Function.comp_def, ServiceDecl.ofFields_fields, SentFileOptions.ofFields_fields, decl]

namespace SentRequest

theorem ofFields_fields (sent : SentRequest) : Request.ofFields sent.fields = sent.request := by
  have hnames : Field.texts 1 sent.fields = sent.filesToGenerate := Field.texts_of_tagged (by simp [fields])
  have hparameter : Field.text? 2 sent.fields = sent.parameter := Field.text?_of_tagged (by simp [fields])
  have hfiles : Field.messages 15 sent.fields = sent.files.map (·.fields) :=
    Field.messages_of_tagged (by simp [fields])
  rw [Request.ofFields, hnames, hparameter, hfiles, List.map_map]
  simp [Function.comp_def, SentFile.ofFields_fields, request]

theorem decode?_encode {sent : SentRequest} (hnesting : Field.nestingAll sent.fields ≤ Field.depthLimit)
    (hlength : sent.encode.length < 2 ^ 64) : Request.decode? sent.encode = some sent.request := by
  have hfit := (Field.fitAll_iff_known sent.fields).mpr ⟨sent.allKnown_fields, hnesting⟩
  have hdecode : Field.decode? .request sent.encode = some sent.fields :=
    Field.decodeAll?_encodeAll sent.fields hfit hlength
  rw [Request.decode?, hdecode, Option.map_some, ofFields_fields]

theorem decode?_encode_of_deep {sent : SentRequest} (hnesting : Field.depthLimit < Field.nestingAll sent.fields)
    (hlength : sent.encode.length < 2 ^ 64) : Request.decode? sent.encode = none := by
  have hdecode : Field.decode? .request sent.encode = none :=
    Field.decodeAll?_encodeAll_of_deep sent.fields sent.allKnown_fields hnesting hlength
  rw [Request.decode?, hdecode, Option.map_none]

end SentRequest

theorem Request.decode?_encode {request : Request} (hnesting : Field.nestingAll request.fields ≤ Field.depthLimit)
    (hlength : request.encode.length < 2 ^ 64) : decode? request.encode = some request := by
  obtain ⟨hfields, hrequest⟩ := request.fields_sent
  have hencode : request.sent.encode = request.encode := congrArg Field.encodeAll hfields
  rw [← hfields] at hnesting
  rw [← hencode] at hlength ⊢
  rw [SentRequest.decode?_encode hnesting hlength, hrequest]

/-- The bytes of a request come to what the request itself comes to, the same job or the same declaration without a
name, unless messages are nested too deep in it: then they are malformed. Lengths on the wire have 64 bits. -/
theorem SentRequest.ofBytes_encode (sent : SentRequest) (hlength : sent.encode.length < 2 ^ 64) :
    (Field.nestingAll sent.fields ≤ Field.depthLimit →
      Job.ofBytes sent.encode = sent.request.job.mapError .missingName ∧
      Request.decode? sent.encode = some sent.request) ∧
    (Field.depthLimit < Field.nestingAll sent.fields → Job.ofBytes sent.encode = .error .malformedRequest) := by
  constructor
  · intro hnesting
    have hdecode := decode?_encode hnesting hlength
    rw [Job.ofBytes, hdecode]
    exact ⟨rfl, rfl⟩
  · intro hdeep
    rw [Job.ofBytes, decode?_encode_of_deep hdeep hlength]

theorem SentRequest.ofBytes_encode_unnamed :
    let id : Field := .message 2 [.text 1 "id", .number 3 1, .number 5 9]
    let outer : SentMessage := {
      name := some "Outer", nested := [⟨some [], .none _ _, [], .none _ _⟩]
      before := ⟨[id], ⟨⟨.field, rfl, rfl, ⟨rfl, by decide⟩, ⟨rfl, by decide⟩, trivial⟩, trivial⟩, by decide⟩
      after := .none _ _ }
    let sent : SentRequest := {
      filesToGenerate := ["a.proto"], parameter := some []
      files := [{
        name := some "a.proto", package := none, messages := [outer]
        options := some ⟨.none _ _, none, ⟨[.text 1 "java"], ⟨rfl, trivial⟩, by decide⟩⟩
        services := [{
          name := some "S"
          methods := [
            { name := some "Get", options := some { http := some { pattern := some (.get []) } } },
            { name := some [], options := some {}, serverStreaming := some false }] }] }] }
    Field.nestingAll sent.fields ≤ Field.depthLimit ∧ sent.encode.length < 2 ^ 64 ∧
      Job.ofBytes sent.encode = .error (.missingName (.method "a.proto" "S" 1)) := by
  intro id outer sent
  have hnesting : Field.nestingAll sent.fields ≤ Field.depthLimit := by decide
  have hmore : ∀ n, 128 ≤ n → Bytes.ofVarint n = (n % 128 + 128).toUInt8 :: Bytes.ofVarint (n / 128) :=
    fun n hn => by rw [Bytes.ofVarint, if_neg (by omega)]
  have hlength : sent.encode.length < 2 ^ 64 := by
    have hfields : sent.fields = [.text 1 "a.proto", .text 2 [], .message 15 [
        .text 1 "a.proto",
        .message 4 [.text 1 "Outer", id, .message 3 [.text 1 []]],
        .message 6 [.text 1 "S",
          .message 2 [.text 1 "Get", .message 4 [.message httpRuleNumber [.text 2 []]]],
          .message 2 [.text 1 [], .message 4 [], .number 6 0]],
        .message 8 [.text 1 "java"]]] := by rfl
    rw [SentRequest.encode, hfields]
    simp (disch := decide) only [id, Field.encodeAll, Field.encode, WireKey.bytes, Bytes.delimited, WireType.code,
      httpRuleNumber, Bytes.ofVarint_of_lt, hmore]
    decide
  exact ⟨hnesting, hlength, ((sent.ofBytes_encode hlength).1 hnesting).1⟩

end SwiftConnections
