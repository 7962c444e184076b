import Mathlib.Data.List.Nodup
import SwiftConnections.Proofs.Connections.MethodCode
import SwiftConnections.Proofs.Identifiers
import SwiftConnections.Proofs.Plugin.Generation

namespace SwiftConnections

theorem bridgePrefix_of_mem {service : Text} (h : service ∈ plainBridgeServices) : bridgePrefix service = [] := by
  have hplain := List.contains_iff_mem.mpr h
  rw [bridgePrefix, if_pos hplain]

theorem bridgePrefix_of_not_mem {service : Text} (h : service ∉ plainBridgeServices) :
    bridgePrefix service = service := by
  have hplain := mt List.contains_iff_mem.mp h
  rw [bridgePrefix, if_neg hplain]

theorem bridgeFunction_eq (service method : Text) :
    bridgeFunction service method = "Lndmobile" ++ (bridgePrefix service ++ method) :=
  List.append_assoc _ _ _

/-- The name of a method with the name of its service. -/
structure Endpoint where
  service : Text
  method : Text
  deriving DecidableEq

namespace Endpoint

/-- The native function for the method. -/
def native (e : Endpoint) : Text :=
  bridgeFunction e.service e.method

theorem native_of_mem {service : Text} (h : service ∈ plainBridgeServices) (method : Text) :
    native ⟨service, method⟩ = "Lndmobile" ++ method := by
  unfold native
  rw [bridgeFunction_eq, bridgePrefix_of_mem h, List.nil_append]

theorem native_of_not_mem {service : Text} (h : service ∉ plainBridgeServices) (method : Text) :
    native ⟨service, method⟩ = "Lndmobile" ++ (service ++ method) := by
  unfold native
  rw [bridgeFunction_eq, bridgePrefix_of_not_mem h]

/-- How two methods come to have one native function. -/
inductive Overlaps : Endpoint → Endpoint → Prop
  /-- Neither function has the name of a service. -/
  | plain {service service' : Text} (method : Text) (h : service ∈ plainBridgeServices)
      (h' : service' ∈ plainBridgeServices) : Overlaps ⟨service, method⟩ ⟨service', method⟩
  /-- The name of a method begins with the name of the other service. -/
  | spelledOut {service service' : Text} (method : Text) (h : service ∈ plainBridgeServices)
      (h' : service' ∉ plainBridgeServices) : Overlaps ⟨service, service' ++ method⟩ ⟨service', method⟩
  /-- The name of a method begins with what the name of the other service has beyond that of its own. -/
  | shifted {service : Text} (extra method : Text) (h : service ∉ plainBridgeServices)
      (h' : service ++ extra ∉ plainBridgeServices) : Overlaps ⟨service, extra ++ method⟩ ⟨service ++ extra, method⟩

theorem Overlaps.native_eq {e e' : Endpoint} (h : e.Overlaps e') : e.native = e'.native := by
  cases h with
  | plain method h h' => rw [native_of_mem h, native_of_mem h']
  | spelledOut method h h' => rw [native_of_mem h, native_of_not_mem h']
  | shifted extra method h h' => rw [native_of_not_mem h, native_of_not_mem h', List.append_assoc]

/-- The functions are put together without a mark between the names, so the shorter of two service names is the start
of the longer one. -/
theorem overlaps_of_native_eq {e e' : Endpoint} (h : e.native = e'.native) : e.Overlaps e' ∨ e'.Overlaps e := by
  obtain ⟨service, method⟩ := e
  obtain ⟨service', method'⟩ := e'
  by_cases hs : service ∈ plainBridgeServices <;> by_cases hs' : service' ∈ plainBridgeServices
  · rw [native_of_mem hs, native_of_mem hs'] at h
    cases List.append_cancel_left h
    exact .inl (.plain method hs hs')
  · rw [native_of_mem hs, native_of_not_mem hs'] at h
    cases List.append_cancel_left h
    exact .inl (.spelledOut method' hs hs')
  · rw [native_of_not_mem hs, native_of_mem hs'] at h
    cases List.append_cancel_left h
    exact .inr (.spelledOut method hs' hs)
  · rw [native_of_not_mem hs, native_of_not_mem hs'] at h
    rcases List.append_eq_append_iff.mp (List.append_cancel_left h) with ⟨extra, rfl, rfl⟩ | ⟨extra, rfl, rfl⟩
    · exact .inl (.shifted extra method' hs hs')
    · exact .inr (.shifted extra method hs' hs)

theorem native_eq_iff {e e' : Endpoint} : e.native = e'.native ↔ e.Overlaps e' ∨ e'.Overlaps e :=
  ⟨overlaps_of_native_eq, fun h => h.elim Overlaps.native_eq fun h => h.native_eq.symm⟩

theorem eq_of_native_eq {e e' : Endpoint} (hs : e.service = e'.service) (h : e.native = e'.native) : e = e' := by
  obtain ⟨service, method⟩ := e
  obtain ⟨service', method'⟩ := e'
  cases hs
  unfold native bridgeFunction at h
  exact congrArg (Endpoint.mk service) (List.append_cancel_left h)

end Endpoint

theorem SwiftMethod.ofMethod_names {types : TypeIndex} {service : Text} {method : Method} {m : SwiftMethod}
    (h : ofMethod types service method = .ok m) :
    m.name = method.name ∧ m.function = functionName method.name ∧
      m.bridge = Endpoint.native ⟨service, method.name⟩ := by
  obtain ⟨input, -, h⟩ := bind_eq_ok_iff.mp h
  obtain ⟨output, -, h⟩ := bind_eq_ok_iff.mp h
  cases h
  exact ⟨rfl, rfl, rfl⟩

/-- The function that hands a request over to a native function. -/
def SwiftMethod.nativeCallText (m : SwiftMethod) (entry : Text) : Text :=
  Text.unlines [
    "    " ++ m.signature ++ " \x7b",
    "        " ++ entry ++ "(try? request.serializedData(), LndCallback(completion))",
    "    \x7d"]

theorem SwiftMethod.render_streamingFunction (m : SwiftMethod) :
    render 1 m.streamingFunction = m.nativeCallText m.bridge := by
  have hmem : '(' ∈ m.bridge ++ "(try? request.serializedData(), LndCallback(completion))" :=
    List.mem_append_right _ (by decide)
  rw [streamingFunction, render_block_line hmem (by decide), nativeCallText]
  simp [Text.unlines]

/-- No two services have one name, and no two methods of a service. -/
structure HasDistinctNames (services : List Service) : Prop where
  names : (services.map (·.name)).Nodup
  methods : ∀ s ∈ services, (s.methods.map (·.name)).Nodup

/-- Identifiers name the services and their methods. -/
def HasIdentifiers (services : List Service) : Prop :=
  ∀ s ∈ services, isIdentifier s.name = true ∧ ∀ m ∈ s.methods, isIdentifier m.name = true

instance (services : List Service) : Decidable (HasIdentifiers services) :=
  inferInstanceAs (Decidable (∀ s ∈ services, isIdentifier s.name = true ∧ ∀ m ∈ s.methods, isIdentifier m.name = true))

namespace Model

variable (model : Model)

def services : List Service :=
  model.files.flatMap (·.services)

/-- The methods of all services of a request. -/
def endpoints : List Endpoint :=
  model.services.flatMap fun s => s.methods.map fun m => ⟨s.name, m.name⟩

variable {model}

theorem nodup_endpoints (h : HasDistinctNames model.services) : model.endpoints.Nodup := by
  rw [endpoints, List.nodup_flatMap]
  constructor
  · intro s hs
    have hmethods := (h.methods s hs).map (f := Endpoint.mk s.name) fun _ _ heq => (Endpoint.mk.inj heq).2
    rwa [List.map_map] at hmethods
  · refine (List.pairwise_map.mp h.names).imp fun hne e he he' => hne ?_
    obtain ⟨_, -, rfl⟩ := List.mem_map.mp he
    obtain ⟨_, -, heq⟩ := List.mem_map.mp he'
    exact (Endpoint.mk.inj heq).1.symm

/-- A method of a generated connection is one of the methods of the request. -/
theorem exists_endpoint {file : ProtoFile} (hfile : file ∈ model.files) {services : List SwiftService}
    (hservices : file.swiftServices model.types = .ok services) {s : SwiftService} (hs : s ∈ services)
    {m : SwiftMethod} (hm : m ∈ s.methods) :
    ∃ e ∈ model.endpoints, e.service = s.name ∧ e.method = m.name ∧ m.bridge = e.native := by
  obtain ⟨service, hservice, hs⟩ := exists_of_mem_mapM hservices hs
  obtain ⟨methods, hmethods, hs⟩ := bind_eq_ok_iff.mp hs
  cases hs
  obtain ⟨method, hmethod, hm⟩ := exists_of_mem_mapM hmethods hm
  obtain ⟨hname, -, hbridge⟩ := SwiftMethod.ofMethod_names hm
  have hmem : service ∈ model.services := List.mem_flatMap.mpr ⟨file, hfile, hservice⟩
  refine ⟨⟨service.name, method.name⟩, ?_, rfl, hname.symm, hbridge⟩
  exact List.mem_flatMap.mpr ⟨service, hmem, List.mem_map.mpr ⟨method, hmethod, rfl⟩⟩

/-- Two methods of a request have one native function exactly if they overlap, so the functions of all methods are
different exactly if no two methods overlap. The function of a method is what its connection calls. -/
theorem nodup_native_iff (model : Model) (h : HasDistinctNames model.services) :
    ((model.endpoints.map (·.native)).Nodup ↔
      ∀ e ∈ model.endpoints, ∀ e' ∈ model.endpoints, e.Overlaps e' → e = e') ∧
    (∀ e e' : Endpoint, e.native = e'.native ↔ e.Overlaps e' ∨ e'.Overlaps e) ∧
    (∀ e e' : Endpoint, e.service = e'.service → e.native = e'.native → e = e') ∧
    ∀ file ∈ model.files, ∀ services, file.swiftServices model.types = .ok services → ∀ s ∈ services,
      ∀ m ∈ s.supported, ∃ e ∈ model.endpoints, e.service = s.name ∧ e.method = m.name ∧
        m.nativeCallText e.native <:+: render 0 (Artifact.streaming.code s) := by
  refine ⟨?_, fun _ _ => Endpoint.native_eq_iff, fun _ _ => Endpoint.eq_of_native_eq, ?_⟩
  · rw [List.nodup_map_iff_inj_on (nodup_endpoints h)]
    constructor
    · exact fun hinj e he e' he' hoverlaps => hinj e he e' he' hoverlaps.native_eq
    · intro hnone e he e' he' hnative
      rcases Endpoint.native_eq_iff.mp hnative with hoverlaps | hoverlaps
      · exact hnone e he e' he' hoverlaps
      · exact (hnone e' he' e he hoverlaps).symm
  · intro file hfile services hservices s hs m hm
    obtain ⟨e, he, hservice, hmethod, hbridge⟩ :=
      exists_endpoint hfile hservices hs (List.mem_filter.mp hm).1
    have hcall := Artifact.streaming.methodCode_isInfix s hm
    rw [Artifact.methodCode, m.render_streamingFunction, hbridge] at hcall
    exact ⟨e, he, hservice, hmethod, hcall⟩

theorem nodup_native_iff_shifted :
    let method (name : Text) : Method := {
      name, input := ".T", output := ".T", clientStreaming := false, serverStreaming := false, options := {} }
    let model : Model := {
      files := [{
        name := "a.proto", package := [], swiftPrefix := none
        services := [⟨"A", [method "BC", method "B"]⟩, ⟨"AB", [method "C"]⟩] }]
      types := TypeIndex.empty.insert ⟨[], none, ["T"]⟩ }
    HasDistinctNames model.services ∧ Endpoint.Overlaps ⟨"A", "BC"⟩ ⟨"AB", "C"⟩ ∧
      ¬ (model.endpoints.map (·.native)).Nodup := by
  intro method model
  have hnames : HasDistinctNames model.services := ⟨by decide, by decide⟩
  have hoverlaps : Endpoint.Overlaps ⟨"A", "BC"⟩ ⟨"AB", "C"⟩ := .shifted "B" "C" (by decide) (by decide)
  obtain ⟨hnodup, -⟩ := nodup_native_iff model hnames
  refine ⟨hnames, hoverlaps, fun h => ?_⟩
  have heq := hnodup.mp h _ (by decide) _ (by decide) hoverlaps
  exact absurd heq (by decide)

/-- Different methods have different native functions if all their names are identifiers. -/
def SeparatesNatives (model : Model) : Prop :=
  HasDistinctNames model.services → HasIdentifiers model.services →
  ∀ e ∈ model.endpoints, ∀ e' ∈ model.endpoints, e ≠ e' → e.native ≠ e'.native

/-- Nothing stands between the names, and two services do without theirs. -/
theorem not_separatesNatives :
    let method (name : Text) : Method := {
      name, input := ".T", output := ".T", clientStreaming := false, serverStreaming := false, options := {} }
    let model (services : List Service) : Model := {
      files := [{ name := "a.proto", package := [], swiftPrefix := none, services }]
      types := TypeIndex.empty.insert ⟨[], none, ["T"]⟩ }
    ¬ SeparatesNatives (model [⟨"Lightning", [method "GetInfo"]⟩, ⟨"WalletUnlocker", [method "GetInfo"]⟩]) ∧
    ¬ SeparatesNatives (model [⟨"Lightning", [method "RouterSend"]⟩, ⟨"Router", [method "Send"]⟩]) ∧
    ¬ SeparatesNatives (model [⟨"A", [method "BC"]⟩, ⟨"AB", [method "C"]⟩]) := by
  intro method model
  refine ⟨fun h => ?_, fun h => ?_, fun h => ?_⟩
  · exact h ⟨by decide, by decide⟩ (by decide) ⟨"Lightning", "GetInfo"⟩ (by decide) ⟨"WalletUnlocker", "GetInfo"⟩
      (by decide) (by decide) rfl
  · exact h ⟨by decide, by decide⟩ (by decide) ⟨"Lightning", "RouterSend"⟩ (by decide) ⟨"Router", "Send"⟩
      (by decide) (by decide) rfl
  · exact h ⟨by decide, by decide⟩ (by decide) ⟨"A", "BC"⟩ (by decide) ⟨"AB", "C"⟩ (by decide) (by decide) rfl

end Model

end SwiftConnections
