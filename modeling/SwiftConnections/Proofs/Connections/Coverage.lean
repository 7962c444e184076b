import SwiftConnections.Proofs.Connections.Outline

namespace SwiftConnections

namespace SwiftMethod

theorem rpcFunctions_eq_codeOr (m : SwiftMethod) (call : Text) :
    m.rpcFunctions call = m.codeOr (m.rpcFunctions call) := by
  unfold codeOr isSupported
  cases hs : m.shape with
  | unary => rfl
  | serverStreaming => rfl
  | clientStreaming => simp [rpcFunctions, hs, StreamingShape.isSupported]
  | bidirectionalStreaming => simp [rpcFunctions, hs, StreamingShape.isSupported]

theorem lastSupported?_eq_none_iff {methods : List SwiftMethod} :
    lastSupported? methods = none ↔ methods.any (·.isSupported) = false := by
  induction methods with
  | nil => simp [lastSupported?]
  | cons m rest ih =>
    rw [lastSupported?, List.any_cons, Bool.or_eq_false_iff, ← ih]
    cases lastSupported? rest with
    | some i => simp
    | none => cases m.isSupported <;> simp

theorem lastSupported?_cons_zero {m : SwiftMethod} {rest : List SwiftMethod} (hm : m.isSupported = true) :
    lastSupported? (m :: rest) = some 0 ↔ rest.any (·.isSupported) = false := by
  rw [← lastSupported?_eq_none_iff, lastSupported?, hm]
  cases lastSupported? rest <;> simp

theorem lastSupported?_cons_succ {m : SwiftMethod} {rest : List SwiftMethod} {i : Nat} :
    lastSupported? (m :: rest) = some (i + 1) ↔ lastSupported? rest = some i := by
  rw [lastSupported?]
  cases lastSupported? rest with
  | some j => simp
  | none => cases m.isSupported <;> simp

/-- A parameter is the last one if no method that is implemented comes later. -/
theorem mockParameters_eq (methods : List SwiftMethod) :
    mockParameters methods = passCode false (fun m more => m.mockParameter (if more then "," else [])) methods := by
  -- Positions count from the start of the whole list, so the tail of a list begins at a later one.
  suffices h : ∀ (start : Nat) (last : Option Nat),
      (∀ i, last = some (start + i) ↔ lastSupported? methods = some i) →
      ((methods.zipIdx start).flatMap fun p => mockParameterAt last p.1 p.2) =
        passCode false (fun m more => m.mockParameter (if more then "," else [])) methods by
    exact h 0 (lastSupported? methods) fun i => by rw [Nat.zero_add]
  induction methods with
  | nil => intros; rfl
  | cons m rest ih =>
    intro start last hlast
    have hrest := ih (start + 1) last fun i => by
      rw [← lastSupported?_cons_succ, ← hlast, Nat.add_assoc, Nat.add_comm 1]
    rw [List.zipIdx_cons, List.flatMap_cons, hrest, passCode, gap, List.nil_append, mockParameterAt]
    congr 1
    cases hm : m.isSupported with
    | false => simp [codeOr, hm]
    | true =>
      have hhead : some start = last ↔ rest.any (·.isSupported) = false := by
        rw [← lastSupported?_cons_zero hm, ← hlast 0]
        exact eq_comm
      cases hr : rest.any (·.isSupported) with
      | false => simp [hhead.mpr hr]
      | true => simp [mt hhead.mp (by simp [hr])]

end SwiftMethod

theorem SwiftMethod.exposes_codeOr {a : Artifact} {m : SwiftMethod} {code : List Step} (hm : m.IsUnbroken)
    (h : m.isSupported = true → Exposes 1 code [m.functionLine a]) :
    Exposes 1 (m.codeOr code) [m.methodLine a] := by
  unfold codeOr methodLine
  split
  next hs => exact h hs
  next => exact exposes_mark hm

namespace SwiftService

variable {s : SwiftService}

theorem outlined_functions {a : Artifact} {spaced : Bool} {code : SwiftMethod → List Step} (h : s.IsUnbroken)
    (hc : ∀ m ∈ s.methods, m.isSupported = true → Exposes 1 (code m) [m.functionLine a]) :
    Outlined s.methods 1 (passCode spaced (fun m _ => code m) s.methods) [.pass 1 spaced fun m _ => code m]
      (s.methods.map (·.methodLine a)) := by
  rw [List.map_eq_flatMap]
  exact .pass h.methods fun m hm _ => SwiftMethod.exposes_codeOr (h.methods m hm) (hc m hm)

theorem outlined_connection (h : s.IsUnbroken) :
    Outlined s.methods 0 s.connectionCode (Artifact.connection.parts s.names s.supported)
      (s.methods.map (·.methodLine .connection)) := by
  have hbody : Outlined s.methods 1 (passCode false (fun m _ => line m.signature) s.methods)
      [.pass 1 false fun m _ => line m.signature] (s.methods.map (·.methodLine .connection)) :=
    outlined_functions h fun m hm _ => SwiftMethod.exposes_requirement (h.methods m hm)
  rw [passCode_eq] at hbody
  exact .block (by simp [h.connection]) rfl hbody

theorem outlined_streaming (h : s.IsUnbroken) :
    Outlined s.methods 0 s.streamingCode (Artifact.streaming.parts s.names s.supported)
      (s.methods.map (·.methodLine .streaming)) := by
  have hbody : Outlined s.methods 1 (passCode false (fun m _ => m.streamingFunction) s.methods)
      [.pass 1 false fun m _ => m.streamingFunction] (s.methods.map (·.methodLine .streaming)) :=
    outlined_functions h fun m hm _ => SwiftMethod.exposes_streamingFunction (h.methods m hm)
  rw [passCode_eq] at hbody
  have hheader : '\n' ∉ s.conforming "class" s.names.streaming := by
    unfold conforming
    simp [h.connection, h.streaming]
  have hclass := Outlined.block hheader rfl hbody
  have hopening : Exposes 0 (line "#if !REMOTEONLY") [] := .line (by decide) rfl
  have hclosing : Exposes 0 (line "#endif") [] := .line (by decide) rfl
  have hall := ((Outlined.fixed hopening).append hclass).append (.fixed hclosing)
  rw [List.append_nil] at hall
  exact hall

theorem outlined_rpc (h : s.IsUnbroken) :
    Outlined s.methods 0 s.rpcCode (Artifact.rpc.parts s.names s.supported)
      (s.methods.map (·.methodLine .rpc)) := by
  have hpass : Outlined s.methods 1 (passCode true (fun m _ => m.rpcFunctions (s.names.call m.name)) s.methods)
      [.pass 1 true fun m _ => m.rpcFunctions (s.names.call m.name)] (s.methods.map (·.methodLine .rpc)) := by
    refine outlined_functions h fun m hm hs => SwiftMethod.exposes_rpcFunctions (h.methods m hm) ?_ hs
    unfold ServiceNames.call
    simp [h.qualified, (h.methods m hm).name]
  have hcode : passCode true (fun m _ => m.rpcFunctions (s.names.call m.name)) s.methods =
      s.functions fun m => m.rpcFunctions (s.names.call m.name) := by
    rw [passCode_eq]
    simp only [← SwiftMethod.rpcFunctions_eq_codeOr]
    rfl
  rw [hcode] at hpass
  have hservice : Exposes 1 (line ("let service: " ++ s.names.clientProtocol)) [] :=
    .line (by unfold ServiceNames.clientProtocol; simp [h.qualified]) rfl
  have hinit : Exposes 1 (block "public init(configuration: RPCCredentials)"
      (line ("service = " ++ s.names.client ++ "(configuration: configuration)"))) [] :=
    .member (by decide) (.singleLine (by unfold ServiceNames.client; simp [h.qualified])) rfl
  have hfixed := (hservice.append .emptyLine).append hinit
  exact .block (by unfold conforming; simp [h.connection, h.rpc]) rfl ((Outlined.fixed hfixed).append hpass)

theorem outlined_rest (h : s.IsUnbroken) :
    Outlined s.methods 0 s.restCode (Artifact.rest.parts s.names s.supported)
      (s.methods.map (·.methodLine .rest)) := by
  have hpass : Outlined s.methods 1 (passCode true (fun m _ => m.restFunction) s.methods)
      [.pass 1 true fun m _ => m.restFunction] (s.methods.map (·.methodLine .rest)) :=
    outlined_functions h fun m hm _ => SwiftMethod.exposes_restFunction (h.methods m hm)
  rw [passCode_eq] at hpass
  have hproperty : Exposes 1 (line "private let lndRest: LNDRest") [] := .line (by decide) rfl
  have hinit : Exposes 1 (block "init(lndRest: LNDRest)" (line "self.lndRest = lndRest")) [] :=
    .member (by decide) (.singleLine (by decide)) rfl
  have hfixed := (hproperty.append .emptyLine).append hinit
  exact .block (by unfold conforming; simp [h.connection, h.rest]) rfl ((Outlined.fixed hfixed).append hpass)

theorem map_skipped {α : Type} (s : SwiftService) (f : SwiftMethod → α) :
    s.skipped.map f = s.methods.flatMap fun m => if m.isSupported then [] else [f m] := by
  unfold skipped
  induction s.methods with
  | nil => rfl
  | cons m rest ih =>
    rw [List.flatMap_cons, ← ih]
    cases hm : m.isSupported <;> simp [hm]

theorem outlined_mock (h : s.IsUnbroken) :
    Outlined s.methods 0 s.mockCode (Artifact.mock.parts s.names s.supported)
      (s.skipped.map (·.markLine) ++ s.methods.map (·.methodLine .mock)) := by
  have hproperties : Outlined s.methods 1 (passCode false (fun m _ => m.mockProperty) s.methods)
      [.pass 1 false fun m _ => m.mockProperty] (s.skipped.map (·.markLine)) := by
    rw [s.map_skipped]
    refine .pass h.methods fun m hm _ => ?_
    unfold SwiftMethod.codeOr
    split
    · exact SwiftMethod.exposes_mockProperty (h.methods m hm)
    · exact SwiftMethod.exposes_mark (h.methods m hm)
  have hparameters : Outlined s.methods 2 (SwiftMethod.mockParameters s.methods)
      [.pass 2 false fun m more => m.mockParameter (if more then "," else [])] [] := by
    rw [SwiftMethod.mockParameters_eq]
    have hnone : s.methods.flatMap (fun _ => ([] : List Text)) = [] := by simp
    rw [← hnone]
    refine .pass h.methods fun m hm more => ?_
    unfold SwiftMethod.codeOr
    split
    · exact SwiftMethod.exposes_mockParameter (h.methods m hm) (by cases more <;> decide)
    · exact .deep (.singleLine (h.methods m hm).skipMark)
  have hassignments : Exposes 2 (s.supported.flatMap (·.mockAssignment)) [] :=
    .deep (.flatMap fun m hm => SwiftMethod.mockAssignment_layout (h.methods m (List.mem_filter.mp hm).1))
  have hfunctions : Outlined s.methods 1 (passCode true (fun m _ => m.mockFunction) s.methods)
      [.pass 1 true fun m _ => m.mockFunction] (s.methods.map (·.methodLine .mock)) :=
    outlined_functions h fun m hm _ => SwiftMethod.exposes_mockFunction (h.methods m hm)
  rw [passCode_eq] at hproperties hfunctions
  have hopening : Exposes 1 (line "init(") [] := .line (by decide) rfl
  have hmiddle : Exposes 1 (line ") \x7b") [] := .line (by decide) rfl
  have hclosing : Exposes 1 (line "\x7d") [] := .line (by decide) rfl
  have hinit := ((hproperties.append (.fixed .emptyLine)).append (.fixed hopening)).append hparameters.body
  have hbody := (((hinit.append (.fixed hmiddle)).append (Outlined.fixed hassignments).body).append
    (.fixed hclosing)).append hfunctions
  simp only [List.append_nil] at hbody
  exact .block (by unfold conforming; simp [h.connection, h.mock]) rfl hbody

theorem filter_methodLine (a : Artifact) (s : SwiftService) :
    (s.methods.map (·.methodLine a)).filter isFunctionLine = s.supported.map (·.functionLine a) := by
  have hp : isFunctionLine ∘ SwiftMethod.methodLine a = SwiftMethod.isSupported :=
    funext (SwiftMethod.isFunctionLine_methodLine a)
  rw [List.filter_map, hp]
  refine List.map_congr_left fun m hm => ?_
  rw [SwiftMethod.methodLine, if_pos (List.mem_filter.mp hm).2]

theorem filter_markLine (s : SwiftService) : (s.skipped.map (·.markLine)).filter isFunctionLine = [] := by
  rw [List.filter_eq_nil_iff]
  intro t ht
  obtain ⟨m, -, rfl⟩ := List.mem_map.mp ht
  rw [m.isFunctionLine_markLine]
  exact Bool.false_ne_true

end SwiftService

namespace Artifact

theorem outlined {s : SwiftService} (h : s.IsUnbroken) (a : Artifact) :
    Outlined s.methods 0 (a.code s) (a.parts s.names s.supported)
      ((if a = .mock then s.skipped.map (·.markLine) else []) ++ s.methods.map (·.methodLine a)) := by
  cases a with
  | connection => exact s.outlined_connection h
  | streaming => exact s.outlined_streaming h
  | rpc => exact s.outlined_rpc h
  | rest => exact s.outlined_rest h
  | mock => exact s.outlined_mock h

/-- All that a method that is not implemented leaves in a declaration. -/
def marks (m : SwiftMethod) : Artifact → List Text
  | connection | streaming => [m.markLine ++ "\n"]
  | rpc | rest => ["\n" ++ m.markLine ++ "\n"]
  | mock => [m.markLine ++ "\n", "    " ++ m.markLine ++ "\n", "\n" ++ m.markLine ++ "\n"]

theorem marks_eq (names : ServiceNames) (supported : List SwiftMethod) (m : SwiftMethod) (a : Artifact) :
    (a.parts names supported).flatMap (·.marks m) = a.marks m := by
  cases a <;> rfl

theorem inserted_marks {s : SwiftService} (h : s.IsUnbroken) (a : Artifact) {before after : List SwiftMethod}
    {m : SwiftMethod} (hs : s.methods = before ++ m :: after) (hm : m.isSupported = false) :
    Inserted (a.marks m) (render 0 (a.code { s with methods := before ++ after })) (render 0 (a.code s)) := by
  have hsub : (before ++ after).Sublist s.methods := hs ▸ (List.sublist_cons_self m after).append_left before
  have hrest : SwiftService.IsUnbroken { s with methods := before ++ after } :=
    { h with methods := fun m' hm' => h.methods m' (hsub.subset hm') }
  have hsupported : SwiftService.supported { s with methods := before ++ after } = s.supported := by
    simp [SwiftService.supported, hs, hm]
  rw [(outlined hrest a).text, (outlined h a).text, hsupported, ← marks_eq s.names s.supported m a, hs]
  exact .flatMap fun part _ => part.inserted_marks before after hm

/-- Every declaration has the same functions, and of any other method no more than its marks. -/
theorem covers_methods (s : SwiftService) (h : s.IsUnbroken) (a : Artifact) :
    ((render 0 (a.code s)).split '\n').filter isFunctionLine = s.supported.map (·.functionLine a) ∧
    ((render 0 (a.code s)).split '\n').filter isMethodLine =
      (if a = .mock then s.skipped.map (·.markLine) else []) ++ s.methods.map (·.methodLine a) ∧
    render 0 (a.code s) = (a.parts s.names s.supported).flatMap (·.text s.methods) ∧
    ∀ before m after, s.methods = before ++ m :: after → m.isSupported = false →
      Inserted (a.marks m) (render 0 (a.code { s with methods := before ++ after })) (render 0 (a.code s)) := by
  have houtline := outlined h a
  have hlines := houtline.exposes.filter_split
  refine ⟨?_, hlines, houtline.text, fun before m after hs hm => inserted_marks h a hs hm⟩
  have hmarks : (if a = .mock then s.skipped.map (·.markLine) else []).filter isFunctionLine = [] := by
    split
    · exact s.filter_markLine
    · rfl
  rw [← filter_isFunctionLine, hlines, List.filter_append, hmarks, List.nil_append, s.filter_methodLine]

theorem covers_methods_mixed :
    let info : SwiftMethod := {
      name := "GetInfo", function := "getInfo", input := "In", output := "Out", shape := .unary
      bridge := "LndmobileGetInfo", binding := .ok ⟨.get, ⟨[.literal "", .literal "v1"]⟩, false⟩ }
    let upload : SwiftMethod := { info with function := "upload", shape := .clientStreaming }
    let watch : SwiftMethod := { info with function := "watch", shape := .serverStreaming }
    let s : SwiftService := {
      name := "S", methods := [upload, info, watch]
      names := ⟨"SConnection", "StreamingSConnection", "RPCSConnection", "RestSConnection", "MockSConnection", "S"⟩ }
    let found : List Text := [
      "    // skipped: upload",
      "    // skipped: upload",
      "    func getInfo(_ request: In, completion: @escaping ApiCompletion<Out>) \x7b",
      "    func watch(_ request: In, completion: @escaping ApiCompletion<Out>) \x7b"]
    s.IsUnbroken ∧ ((render 0 (mock.code s)).split '\n').filter isMethodLine = found ∧
      upload.isSupported = false ∧
      Inserted (mock.marks upload) (render 0 (mock.code { s with methods := [info, watch] }))
        (render 0 (mock.code s)) := by
  intro info upload watch s found
  have hpath : ∀ binding, info.binding = .ok binding →
      ∀ segment ∈ binding.path.segments, '\n' ∉ segment.text := by
    intro binding hb
    cases hb
    decide
  have hinfo : info.IsUnbroken := ⟨by decide, by decide, by decide, by decide, by decide, hpath⟩
  have hupload : upload.IsUnbroken := { hinfo with function := by decide }
  have hwatch : watch.IsUnbroken := { hinfo with function := by decide }
  have hs : s.IsUnbroken := {
    connection := by decide, streaming := by decide, rpc := by decide, rest := by decide, mock := by decide
    qualified := by decide
    methods := by simp [s, hinfo, hupload, hwatch] }
  obtain ⟨-, hfound, -, hinserted⟩ := covers_methods s hs mock
  exact ⟨hs, hfound, rfl, hinserted [] upload [info, watch] rfl rfl⟩

end Artifact

end SwiftConnections
