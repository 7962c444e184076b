import SwiftConnections.Proofs.Connections.MethodCode
import SwiftConnections.Proofs.Except
import SwiftConnections.Proofs.Http.BindingSource
import SwiftConnections.Proofs.Http.PathText
import SwiftConnections.Proofs.Swift.StringLiteral

namespace SwiftConnections

theorem literalValue?_pathText (value : Text) : literalValue? (pathText value) =
    if (beforeColon value).getLast? = some '"' then none else some (beforeColon value) := by
  rw [pathText_eq]
  split
  next =>
    rw [literalValue?_escaped]
    rfl
  next => exact literalValue?_eq_some_iff.mpr rfl

theorem literalValue?_pathText_eq_some_iff {value : Text} :
    literalValue? (pathText value) = some value ↔ value.contains ": " = false ∧ value.getLast? ≠ some '"' := by
  rw [literalValue?_pathText, ← beforeColon_eq_self_iff]
  constructor
  · intro h
    split at h
    next => cases h
    next hlast =>
      have hself := Option.some.inj h
      exact ⟨hself, by rwa [hself] at hlast⟩
  · rintro ⟨hself, hlast⟩
    rw [hself, if_neg hlast]

namespace SwiftMethod

/-- The function of a method whose call sends no body, given the inside of the path's literal. -/
def restCallText (m : SwiftMethod) (verb : Verb) (literal : Text) : Text :=
  Text.unlines [
    "    " ++ m.signature ++ " \x7b",
    "        lndRest.run(method: " ++ verb.swift ++ ", path: \"" ++ literal ++ "\", data: nil, completion: completion)",
    "    \x7d"]

theorem literal_infix_restCallText (m : SwiftMethod) (verb : Verb) (literal : Text) :
    literal <:+: m.restCallText verb literal := by
  have hline : literal <:+: "        lndRest.run(method: " ++ verb.swift ++ ", path: \"" ++ literal ++
      "\", data: nil, completion: completion)" := List.infix_append _ _ _
  have hfeed := hline.trans (List.prefix_append _ ['\n']).isInfix
  rw [restCallText, Text.unlines, List.flatMap_def]
  exact hfeed.trans (List.infix_of_mem_flatten (List.mem_cons_of_mem _ List.mem_cons_self))

theorem ofMethod_eq_ok {types : TypeIndex} {service : Text} {method : Method} {m : SwiftMethod}
    (h : ofMethod types service method = .ok m) : m.shape = method.shape ∧ m.binding = method.options.binding := by
  obtain ⟨input, -, h⟩ := bind_eq_ok_iff.mp h
  obtain ⟨output, -, h⟩ := bind_eq_ok_iff.mp h
  cases h
  exact ⟨rfl, rfl⟩

theorem render_restFunction {m : SwiftMethod} {binding : HttpBinding} (hb : m.binding = .ok binding)
    (hbody : binding.hasBody = false) :
    render 1 m.restFunction = m.restCallText binding.verb binding.path.swiftLiteral := by
  have hcode : m.restBody = restCall binding "nil" := by
    unfold restBody
    rw [hb]
    simp [hbody]
  have hmem : 'l' ∈ "lndRest.run(method: " ++ binding.verb.swift ++ ", path: \"" ++ binding.path.swiftLiteral ++
      "\", data: " ++ "nil" ++ ", completion: completion)" := by
    simp only [List.append_assoc]
    exact List.mem_of_mem_head? rfl
  rw [restFunction, hcode, restCall, render_block_line hmem (by decide), restCallText]
  simp [Text.unlines]

end SwiftMethod

namespace SwiftService

theorem exists_of_ofService {types : TypeIndex} {file : ProtoFile} {service : Service} {s : SwiftService}
    (h : ofService types file service = .ok s) {method : Method} (hm : method ∈ service.methods) :
    ∃ m ∈ s.methods, SwiftMethod.ofMethod types service.name method = .ok m := by
  obtain ⟨methods, hmethods, h⟩ := bind_eq_ok_iff.mp h
  cases h
  exact exists_of_mapM hmethods hm

/-- The call for a path in the only pattern of a method. Its literal denotes what stands before a colon with a blank
behind it, but it is broken if that ends with a quote. -/
theorem rest_path_literal {types : TypeIndex} {file : ProtoFile} {service : Service} {s : SwiftService}
    (h : ofService types file service = .ok s) {method : Method} (hm : method ∈ service.methods)
    (hs : method.shape.isSupported = true) {deprecated : Bool} {verb : Verb} {path : Text}
    (hoptions : method.options = ⟨deprecated, some { pattern := some (verb.pattern path) }⟩)
    (hv : path.contains "v1" = true) (hpieces : ∀ piece ∈ path.split '/', piece.head? ≠ some '{') :
    ∃ m ∈ s.methods, SwiftMethod.ofMethod types service.name method = .ok m ∧ ∃ literal,
      m.restCallText verb literal <:+: render 0 (Artifact.rest.code s) ∧
      literalValue? literal = (if (beforeColon path).getLast? = some '"' then none else some (beforeColon path)) ∧
      (literalValue? literal = some path ↔ path.contains ": " = false ∧ path.getLast? ≠ some '"') := by
  obtain ⟨m, hmem, hmethod⟩ := exists_of_ofService h hm
  obtain ⟨hshape, hbinding⟩ := SwiftMethod.ofMethod_eq_ok hmethod
  have hdeciding : method.options.deciding? = some ⟨{ pattern := some (verb.pattern path) }, verb.slot, path⟩ := by
    rw [hoptions]
    exact MethodOptions.deciding?_of_verb rfl hv rfl
  have hb : m.binding = .ok ⟨verb, PathTemplate.ofPath (pathText path), false⟩ := by
    rw [hbinding, MethodOptions.binding_of_deciding? hdeciding verb.verb?_slot, hoptions]
    rfl
  have hsupported : m.isSupported = true := by rw [SwiftMethod.isSupported, hshape, hs]
  have hcall := Artifact.rest.methodCode_isInfix s (List.mem_filter.mpr ⟨hmem, hsupported⟩)
  rw [Artifact.methodCode, SwiftMethod.render_restFunction hb rfl, PathTemplate.swiftLiteral,
    PathTemplate.render_ofPath (pathText_pieces hpieces)] at hcall
  exact ⟨m, hmem, hmethod, pathText path, hcall, literalValue?_pathText path, literalValue?_pathText_eq_some_iff⟩

theorem rest_path_literal_colon :
    let types := TypeIndex.empty.insert { package := [], swiftPrefix := none, path := ["T"] }
    let method : Method := {
      name := "Get", input := ".T", output := ".T", clientStreaming := false, serverStreaming := false
      options := ⟨false, some { pattern := some (.get "/v1/a: b") }⟩ }
    let service : Service := { name := "S", methods := [method] }
    let file : ProtoFile := { name := "a.proto", package := [], swiftPrefix := none, services := [service] }
    ∃ s, ofService types file service = .ok s ∧ ∃ m ∈ s.methods, ∃ literal,
      m.restCallText .get literal <:+: render 0 (Artifact.rest.code s) ∧ literalValue? literal = some "/v1/a" := by
  intro types method service file
  obtain ⟨s, hs⟩ : ∃ s, ofService types file service = .ok s := ⟨_, rfl⟩
  have hoptions : method.options = ⟨false, some { pattern := some (Verb.get.pattern "/v1/a: b") }⟩ := rfl
  obtain ⟨m, hm, -, literal, hcall, hread, -⟩ :=
    rest_path_literal hs List.mem_cons_self rfl hoptions (by decide) (by decide)
  exact ⟨s, hs, m, hm, literal, hcall, hread⟩

/-- The literal for a path with a colon and a blank behind it does not denote the path. -/
theorem not_rest_path_literal_self :
    ¬ ∀ (types : TypeIndex) (file : ProtoFile) (service : Service) (s : SwiftService),
      ofService types file service = .ok s → ∀ method ∈ service.methods, method.shape.isSupported = true →
      ∀ (verb : Verb) (path : Text), method.options = ⟨false, some { pattern := some (verb.pattern path) }⟩ →
      path.contains "v1" = true → (∀ piece ∈ path.split '/', piece.head? ≠ some '{') →
      ∃ m ∈ s.methods, ∃ literal, m.restCallText verb literal <:+: render 0 (Artifact.rest.code s) ∧
        literalValue? literal = some path := by
  intro h
  let types := TypeIndex.empty.insert { package := [], swiftPrefix := none, path := ["T"] }
  let method : Method := {
    name := "Get", input := ".T", output := ".T", clientStreaming := false, serverStreaming := false
    options := ⟨false, some { pattern := some (.get "/v1/a: b") }⟩ }
  let service : Service := { name := "S", methods := [method] }
  let file : ProtoFile := { name := "a.proto", package := [], swiftPrefix := none, services := [service] }
  obtain ⟨s, hs⟩ : ∃ s, ofService types file service = .ok s := ⟨_, rfl⟩
  have hoptions : method.options = ⟨false, some { pattern := some (Verb.get.pattern "/v1/a: b") }⟩ := rfl
  obtain ⟨m, -, literal, hcall, hread⟩ :=
    h types file service s hs method List.mem_cons_self rfl .get _ hoptions (by decide) (by decide)
  have hliteral : literal = "/v1/a: b".toList := literalValue?_eq_some_iff.mp hread
  have hpath : "/v1/a: b".toList <:+: render 0 (Artifact.rest.code s) :=
    hliteral ▸ (m.literal_infix_restCallText .get literal).trans hcall
  have hnone : (render 0 (Artifact.rest.code s)).contains "/v1/a: b" = false := by
    cases hs
    decide +kernel
  rw [Text.contains_iff_infix.mpr hpath] at hnone
  cases hnone

end SwiftService

end SwiftConnections
