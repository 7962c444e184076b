import SwiftConnections.Proofs.Connections.DeclaredNames
import SwiftConnections.Proofs.Connections.RestPath
import SwiftConnections.Proofs.Identifiers

namespace SwiftConnections

theorem lineFeed_not_mem_lowerChar {c : Char} (hc : c ≠ '\n') : '\n' ∉ lowerChar c := by
  by_cases hascii : c.toNat < 128
  · have hlower : c.toLower ≠ '\n' := by
      revert hc
      exact ascii_induction (P := fun c => c ≠ '\n' → c.toLower ≠ '\n') (by decide) hascii
    rw [lowerChar, if_pos hascii, List.mem_singleton]
    exact hlower.symm
  · intro hm
    have hword : isWordChar c = true := by simp [isWordChar, Nat.le_of_not_lt hascii]
    have hfeed : isWordChar '\n' = true := isWordChar_of_mem_lowerChar hword hm
    exact absurd hfeed (by decide)

theorem lineFeed_not_mem_functionName {name : Text} (h : '\n' ∉ name) : '\n' ∉ functionName name := by
  cases name with
  | nil => exact h
  | cons c rest =>
    obtain ⟨hc, hrest⟩ := not_or.mp (mt List.mem_cons.mpr h)
    exact List.not_mem_append (lineFeed_not_mem_lowerChar (Ne.symm hc)) hrest

theorem lineFeed_not_mem_pathText (value : Text) : '\n' ∉ pathText value := by
  have hquoted := lineFeed_not_mem_quoted value
  rw [quoted_eq] at hquoted
  intro hm
  have hescaped := (pathText_isPrefix value).subset hm
  exact hquoted (List.mem_append_right _ (List.mem_append_left _ hescaped))

theorem PathTemplate.lineFeed_not_mem_ofPath {path : Text} (h : '\n' ∉ path) :
    ∀ segment ∈ (ofPath path).segments, '\n' ∉ segment.text := by
  intro segment hs
  obtain ⟨piece, hp, rfl⟩ := List.mem_map.mp hs
  rw [PathSegment.ofPiece]
  split
  next =>
    refine Text.not_mem_join (by decide) fun t ht hfeed => ?_
    obtain ⟨part, -, rfl⟩ := List.mem_map.mp ht
    exact absurd (isWordChar_of_mem_lowerCamel hfeed) (by decide)
  next => exact fun hm => h (Text.mem_of_mem_split hp hm)

theorem MethodOptions.lineFeed_not_mem_path {options : MethodOptions} {binding : HttpBinding}
    (h : options.binding = .ok binding) : ∀ segment ∈ binding.path.segments, '\n' ∉ segment.text := by
  obtain ⟨s, -, -, hpath, -⟩ := binding_eq_ok_iff.mp h
  rw [hpath]
  exact PathTemplate.lineFeed_not_mem_ofPath (lineFeed_not_mem_pathText s.value)

/-- A service that resolves, of which no name and no type holds a line feed. -/
structure Service.Resolves (service : Service) (s : SwiftService) : Prop where
  resolved : ∃ types file, SwiftService.ofService types file service = .ok s
  name : '\n' ∉ service.name
  methods : ∀ m ∈ s.methods, '\n' ∉ m.name ∧ '\n' ∉ m.input ∧ '\n' ∉ m.output

theorem SwiftMethod.isUnbroken_ofMethod {types : TypeIndex} {service : Text} {method : Method} {m : SwiftMethod}
    (hm : ofMethod types service method = .ok m) (hservice : '\n' ∉ service) (hname : '\n' ∉ m.name)
    (hinput : '\n' ∉ m.input) (houtput : '\n' ∉ m.output) : m.IsUnbroken := by
  obtain ⟨hsame, hfunction, hbridge⟩ := ofMethod_names hm
  obtain ⟨-, hbinding⟩ := ofMethod_eq_ok hm
  have hstart : '\n' ∉ bridgePrefix service := by
    unfold bridgePrefix
    split
    next => exact List.not_mem_nil
    next => exact hservice
  have hmethod : '\n' ∉ method.name := hsame ▸ hname
  exact {
    name := hname
    function := hfunction ▸ lineFeed_not_mem_functionName hmethod
    input := hinput
    output := houtput
    bridge := by
      rw [hbridge]
      unfold Endpoint.native bridgeFunction
      simp [hstart, hmethod]
    path := fun binding hb => MethodOptions.lineFeed_not_mem_path (hbinding ▸ hb) }

namespace Service

variable {service : Service} {s : SwiftService}

theorem Resolves.isUnbroken (h : service.Resolves s) : ∀ m ∈ s.methods, m.IsUnbroken := by
  obtain ⟨⟨types, file, hresolved⟩, hservice, hmethods⟩ := h
  obtain ⟨methods, hmapM, heq⟩ := bind_eq_ok_iff.mp hresolved
  cases heq
  intro m hm
  obtain ⟨hname, hinput, houtput⟩ := hmethods m hm
  obtain ⟨method, -, hmethod⟩ := exists_of_mem_mapM hmapM hm
  exact SwiftMethod.isUnbroken_ofMethod hmethod hservice hname hinput houtput

theorem Resolves.conforming_rest (h : service.Resolves s) : '\n' ∉ s.conforming "final class" s.names.rest := by
  obtain ⟨⟨types, file, hresolved⟩, hservice, -⟩ := h
  obtain ⟨-, hnames, -⟩ := SwiftService.ofService_names hresolved
  unfold SwiftService.conforming
  simp [hnames, ServiceNames.ofService, hservice]

end Service

end SwiftConnections
