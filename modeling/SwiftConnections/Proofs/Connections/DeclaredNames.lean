import Mathlib.Data.List.ProdSigma
import SwiftConnections.Proofs.Connections.NativeFunctions

namespace SwiftConnections

namespace Artifact

/-- What stands before the name of the service in the name of the declared type. -/
def mark : Artifact → Text
  | connection => []
  | streaming => "Streaming"
  | rpc => "RPC"
  | rest => "Rest"
  | mock => "Mock"

/-- The type that is declared for a service of that name. -/
def typeNameOf (service : Text) (a : Artifact) : Text :=
  a.mark ++ service ++ "Connection"

theorem typeName_ofService (a : Artifact) (file : ProtoFile) (service : Text) :
    a.typeName (ServiceNames.ofService file service) = a.typeNameOf service := by
  cases a <;> rfl

theorem mem_all (a : Artifact) : a ∈ all := by
  cases a <;> decide

theorem take_mark_append {a : Artifact} (h : a ≠ connection) (service : Text) :
    (a.mark ++ service).take 2 = a.mark.take 2 := by
  cases a with
  | connection => exact absurd rfl h
  | streaming | rpc | rest | mock => rfl

/-- Two characters tell the marks from each other. -/
theorem eq_of_take_mark {a a' : Artifact} (h : a.mark.take 2 = a'.mark.take 2) : a = a' := by
  have hall : ∀ a ∈ all, ∀ a' ∈ all, a.mark.take 2 = a'.mark.take 2 → a = a' := by decide
  exact hall a a.mem_all a' a'.mem_all h

theorem typeNameOf_eq_iff {a a' : Artifact} {service service' : Text} :
    a.typeNameOf service = a'.typeNameOf service' ↔ a.mark ++ service = a'.mark ++ service' :=
  List.append_left_inj _

/-- Of two types with one name, one is a protocol, and its service is named as the other service with a mark. -/
theorem mark_append_eq_iff {a a' : Artifact} {service service' : Text} :
    a.mark ++ service = a'.mark ++ service' ↔
      (a = a' ∧ service = service') ∨
      (a = connection ∧ a' ≠ connection ∧ service = a'.mark ++ service') ∨
      (a' = connection ∧ a ≠ connection ∧ service' = a.mark ++ service) := by
  constructor
  · intro h
    by_cases ha : a = connection <;> by_cases ha' : a' = connection
    · subst ha ha'
      exact .inl ⟨rfl, h⟩
    · subst ha
      exact .inr (.inl ⟨rfl, ha', h⟩)
    · subst ha'
      exact .inr (.inr ⟨rfl, ha, h.symm⟩)
    · have htake := congrArg (List.take 2) h
      rw [take_mark_append ha, take_mark_append ha'] at htake
      cases eq_of_take_mark htake
      exact .inl ⟨rfl, List.append_cancel_left h⟩
  · rintro (⟨rfl, rfl⟩ | ⟨rfl, -, rfl⟩ | ⟨rfl, -, rfl⟩) <;> rfl

end Artifact

/-- The types that the connections of services declare. -/
def declaredTypes (services : List SwiftService) : List Text :=
  services.flatMap fun s => Artifact.all.map fun a => a.typeName s.names

/-- Names that stay apart from each other when one of the marks is put before them. -/
theorem nodup_typeNameOf_iff {names : List Text} (h : names.Nodup) :
    (names.flatMap fun name => Artifact.all.map (·.typeNameOf name)).Nodup ↔
      ∀ name ∈ names, ∀ name' ∈ names, ∀ a : Artifact, a ≠ .connection → name ≠ a.mark ++ name' := by
  have hpairs : names.flatMap (fun name => Artifact.all.map (·.typeNameOf name)) =
      (names ×ˢ Artifact.all).map fun p => p.2.typeNameOf p.1 := by
    have hproduct : names ×ˢ Artifact.all = names.flatMap fun name => Artifact.all.map (Prod.mk name) := rfl
    rw [hproduct, List.map_flatMap]
    simp only [List.map_map]
    rfl
  rw [hpairs, List.nodup_map_iff_inj_on (h.product (by decide))]
  constructor
  · intro hinj name hname name' hname' a ha heq
    have htypes : Artifact.connection.typeNameOf name = a.typeNameOf name' :=
      Artifact.typeNameOf_eq_iff.mpr heq
    have hpair := hinj (name, .connection) (List.mem_product.mpr ⟨hname, Artifact.mem_all _⟩) (name', a)
      (List.mem_product.mpr ⟨hname', a.mem_all⟩) htypes
    exact ha (Prod.mk.inj hpair).2.symm
  · rintro hapart ⟨name, a⟩ hmem ⟨name', a'⟩ hmem' htypes
    have hname := (List.mem_product.mp hmem).1
    have hname' := (List.mem_product.mp hmem').1
    rcases Artifact.mark_append_eq_iff.mp (Artifact.typeNameOf_eq_iff.mp htypes) with
      ⟨rfl, rfl⟩ | ⟨-, ha', heq⟩ | ⟨-, ha, heq⟩
    · rfl
    · exact absurd heq (hapart name hname name' hname' a' ha')
    · exact absurd heq (hapart name' hname' name hname a ha)

/-- The first name is the second one with a capital at its start. -/
def Capitalizes (name name' : Text) : Prop :=
  ∃ c rest, c.isUpper = true ∧ name = c :: rest ∧ name' = c.toLower :: rest

theorem lt_of_isIdentifier {c : Char} {rest : Text} (h : isIdentifier (c :: rest) = true) : c.toNat < 128 := by
  simp only [isIdentifier, Bool.and_eq_true, Bool.or_eq_true, decide_eq_true_eq] at h
  rcases h.1 with hletter | rfl
  · exact lt_of_isAlpha hletter
  · decide

theorem toUpper_toLower {c : Char} (h : c.isUpper = true) : c.toLower.toUpper = c := by
  have hc := lt_of_isUpper h
  revert h
  exact ascii_induction (P := fun c => c.isUpper = true → c.toLower.toUpper = c) (by decide) hc

theorem toLower_of_not_isUpper {c : Char} (h : ¬ c.isUpper = true) (hc : c.toNat < 128) : c.toLower = c := by
  revert h
  exact ascii_induction (P := fun c => ¬ c.isUpper = true → c.toLower = c) (by decide) hc

theorem functionName_cons {c : Char} {rest : Text} (h : isIdentifier (c :: rest) = true) :
    functionName (c :: rest) = c.toLower :: rest := by
  rw [functionName, lowerChar, if_pos (lt_of_isIdentifier h), List.singleton_append]

theorem Capitalizes.functionName_eq {name name' : Text} (hcap : Capitalizes name name')
    (h : isIdentifier name = true) (h' : isIdentifier name' = true) : functionName name = functionName name' := by
  obtain ⟨c, rest, hupper, rfl, rfl⟩ := hcap
  have htwice : c.toLower.toLower = c.toLower := by
    have hc := lt_of_isUpper hupper
    exact ascii_induction (P := fun c => c.toLower.toLower = c.toLower) (by decide) hc
  rw [functionName_cons h, functionName_cons h', htwice]

theorem functionName_eq_iff {name name' : Text} (h : isIdentifier name = true) (h' : isIdentifier name' = true) :
    functionName name = functionName name' ↔ name = name' ∨ Capitalizes name name' ∨ Capitalizes name' name := by
  constructor
  · intro heq
    obtain ⟨c, rest, rfl⟩ : ∃ c rest, name = c :: rest := List.exists_cons_of_ne_nil (by rintro rfl; cases h)
    obtain ⟨c', rest', rfl⟩ : ∃ c rest, name' = c :: rest := List.exists_cons_of_ne_nil (by rintro rfl; cases h')
    rw [functionName_cons h, functionName_cons h', List.cons_eq_cons] at heq
    obtain ⟨hlower, rfl⟩ := heq
    by_cases hc : c.isUpper = true <;> by_cases hc' : c'.isUpper = true
    · rw [← toUpper_toLower hc, hlower, toUpper_toLower hc']
      exact .inl rfl
    · rw [toLower_of_not_isUpper hc' (lt_of_isIdentifier h')] at hlower
      exact .inr (.inl ⟨c, rest, hc, rfl, hlower ▸ rfl⟩)
    · rw [toLower_of_not_isUpper hc (lt_of_isIdentifier h)] at hlower
      exact .inr (.inr ⟨c', rest, hc', rfl, hlower ▸ rfl⟩)
    · rw [toLower_of_not_isUpper hc (lt_of_isIdentifier h),
        toLower_of_not_isUpper hc' (lt_of_isIdentifier h')] at hlower
      exact .inl (hlower ▸ rfl)
  · rintro (rfl | hcap | hcap)
    · rfl
    · exact hcap.functionName_eq h h'
    · exact (hcap.functionName_eq h' h).symm

theorem Capitalizes.ne {name name' : Text} (h : Capitalizes name name') : name ≠ name' := by
  obtain ⟨c, rest, hupper, rfl, rfl⟩ := h
  have hne : c ≠ c.toLower := by
    have hc := lt_of_isUpper hupper
    revert hupper
    exact ascii_induction (P := fun c => c.isUpper = true → c ≠ c.toLower) (by decide) hc
  exact fun heq => hne (List.cons.inj heq).1

theorem nodup_functionName_iff {names : List Text} (h : names.Nodup) (hi : ∀ name ∈ names, isIdentifier name = true) :
    (names.map functionName).Nodup ↔ ∀ name ∈ names, ∀ name' ∈ names, ¬ Capitalizes name name' := by
  rw [List.nodup_map_iff_inj_on h]
  constructor
  · intro hinj name hname name' hname' hcap
    exact hcap.ne (hinj name hname name' hname' (hcap.functionName_eq (hi name hname) (hi name' hname')))
  · intro hnone name hname name' hname' heq
    rcases (functionName_eq_iff (hi name hname) (hi name' hname')).mp heq with rfl | hcap | hcap
    · rfl
    · exact absurd hcap (hnone name hname name' hname')
    · exact absurd hcap (hnone name' hname' name hname)

/-- What a service keeps of the names in its source. -/
theorem SwiftService.ofService_names {types : TypeIndex} {file : ProtoFile} {service : Service} {s : SwiftService}
    (h : ofService types file service = .ok s) :
    s.name = service.name ∧ s.names = ServiceNames.ofService file service.name ∧
      s.methods.map (·.name) = service.methods.map (·.name) ∧
      ∀ m ∈ s.methods, m.function = functionName m.name := by
  obtain ⟨methods, hmethods, h⟩ := bind_eq_ok_iff.mp h
  cases h
  refine ⟨rfl, rfl, map_eq_map_of_mapM hmethods fun _ _ hm => (SwiftMethod.ofMethod_names hm).1, fun m hm => ?_⟩
  obtain ⟨method, -, hmethod⟩ := exists_of_mem_mapM hmethods hm
  obtain ⟨hname, hfunction, -⟩ := SwiftMethod.ofMethod_names hmethod
  rw [hname, hfunction]

namespace ProtoFile

variable {types : TypeIndex} {file : ProtoFile} {services : List SwiftService}

theorem declaredTypes_eq (h : file.swiftServices types = .ok services) :
    declaredTypes services = (file.services.map (·.name)).flatMap fun name => Artifact.all.map (·.typeNameOf name) := by
  have hnames := map_eq_map_of_mapM h fun _ _ hs => (SwiftService.ofService_names hs).2.1
  have hdeclared : declaredTypes services =
      (services.map (·.names)).flatMap fun names => Artifact.all.map (·.typeName names) := by
    rw [List.flatMap_map, declaredTypes]
  rw [hdeclared, hnames, List.flatMap_map, List.flatMap_map]
  simp only [Artifact.typeName_ofService]

theorem nodup_supported_iff (h : file.swiftServices types = .ok services) (hd : HasDistinctNames file.services)
    (hi : HasIdentifiers file.services) {s : SwiftService} (hs : s ∈ services) :
    (s.supported.map (·.function)).Nodup ↔
      ∀ m ∈ s.supported, ∀ m' ∈ s.supported, ¬ Capitalizes m.name m'.name := by
  obtain ⟨service, hservice, hs⟩ := exists_of_mem_mapM h hs
  obtain ⟨-, -, hnames, hfunctions⟩ := SwiftService.ofService_names hs
  have hsub : (s.supported.map (·.name)).Sublist (service.methods.map (·.name)) :=
    hnames ▸ List.filter_sublist.map _
  have hidentifiers : ∀ name ∈ s.supported.map (·.name), isIdentifier name = true := by
    intro name hname
    obtain ⟨method, hmethod, rfl⟩ := List.mem_map.mp (hsub.subset hname)
    exact (hi service hservice).2 method hmethod
  have hmap : s.supported.map (·.function) = (s.supported.map (·.name)).map functionName := by
    rw [List.map_map]
    exact List.map_congr_left fun m hm => hfunctions m (List.mem_filter.mp hm).1
  rw [hmap, nodup_functionName_iff (hsub.nodup (hd.methods service hservice)) hidentifiers]
  simp only [List.forall_mem_map]

/-- The declared types of a file are different exactly if no service is named as another one with a mark, and the
functions of a service are different exactly if no two names differ only by a capital at the start. Each type is
opened and each function declared in the text, and those of a mock are also its properties and its labels. -/
theorem nodup_declared_iff (h : file.swiftServices types = .ok services) (hd : HasDistinctNames file.services)
    (hi : HasIdentifiers file.services) :
    ((declaredTypes services).Nodup ↔
      ∀ s ∈ file.services, ∀ s' ∈ file.services, ∀ a : Artifact, a ≠ .connection → s.name ≠ a.mark ++ s'.name) ∧
    (∀ s ∈ services, (s.supported.map (·.function)).Nodup ↔
      ∀ m ∈ s.supported, ∀ m' ∈ s.supported, ¬ Capitalizes m.name m'.name) ∧
    (∀ s ∈ services, ∀ a : Artifact,
      (a.keyword ++ " " ++ a.typeName s.names ++ a.conformance s.names ++ " \x7b\n" : Text) <:+: render 0 (a.code s) ∧
      ∀ m ∈ s.supported, ("    func " ++ m.function ++ "(" : Text) <:+: render 0 (a.code s)) ∧
    ∀ s ∈ services, ∀ m ∈ s.supported,
      ("    private let " ++ m.function ++ ": " : Text) <:+: render 0 (Artifact.mock.code s) ∧
      ("        " ++ m.function ++ ": " : Text) <:+: render 0 (Artifact.mock.code s) := by
  refine ⟨?_, fun s hs => nodup_supported_iff h hd hi hs, fun s _ a => ⟨a.opening_isInfix s, fun m hm => ?_⟩,
    fun s _ m hm => ⟨Artifact.mockProperty_isInfix s hm, Artifact.mockParameter_isInfix s hm⟩⟩
  · rw [declaredTypes_eq h, nodup_typeNameOf_iff hd.names]
    simp only [List.forall_mem_map]
  · exact m.function_isPrefix_signature.isInfix.trans (a.signature_isInfix s hm)

theorem nodup_declared_iff_lightning :
    let method (name : Text) : Method := {
      name, input := ".T", output := ".T", clientStreaming := false, serverStreaming := false, options := {} }
    let file : ProtoFile := {
      name := "a.proto", package := [], swiftPrefix := none
      services := [⟨"Lightning", [method "GetInfo", method "SendCoins"]⟩, ⟨"WalletUnlocker", [method "InitWallet"]⟩] }
    HasDistinctNames file.services ∧ HasIdentifiers file.services ∧
      ∃ services, file.swiftServices (TypeIndex.empty.insert ⟨[], none, ["T"]⟩) = .ok services ∧
        (declaredTypes services).Nodup := by
  intro method file
  have hd : HasDistinctNames file.services := ⟨by decide, by decide⟩
  have hi : HasIdentifiers file.services := by decide
  obtain ⟨services, hservices⟩ :
      ∃ services, file.swiftServices (TypeIndex.empty.insert ⟨[], none, ["T"]⟩) = .ok services := ⟨_, rfl⟩
  have hapart : ∀ s ∈ file.services, ∀ s' ∈ file.services, ∀ a ∈ Artifact.all, a ≠ .connection →
      s.name ≠ a.mark ++ s'.name := by decide
  obtain ⟨htypes, -⟩ := nodup_declared_iff hservices hd hi
  exact ⟨hd, hi, services, hservices, htypes.mpr fun s hs s' hs' a => hapart s hs s' hs' a a.mem_all⟩

/-- The types of a file and the functions of each service are different if all names are identifiers. -/
def SeparatesDeclarations (file : ProtoFile) : Prop :=
  HasDistinctNames file.services → HasIdentifiers file.services →
  ∀ types services, file.swiftServices types = .ok services →
    (declaredTypes services).Nodup ∧ ∀ s ∈ services, (s.supported.map (·.function)).Nodup

/-- A service may be named as another one with a mark, and a method may begin with a small letter. -/
theorem not_separatesDeclarations :
    let method (name : Text) : Method := {
      name, input := ".T", output := ".T", clientStreaming := false, serverStreaming := false, options := {} }
    let file (services : List Service) : ProtoFile := {
      name := "a.proto", package := [], swiftPrefix := none, services }
    ¬ SeparatesDeclarations (file [⟨"Foo", []⟩, ⟨"RestFoo", []⟩]) ∧
    ¬ SeparatesDeclarations (file [⟨"S", [method "Get", method "get"]⟩]) := by
  intro method file
  let types := TypeIndex.empty.insert ⟨[], none, ["T"]⟩
  refine ⟨fun h => ?_, fun h => ?_⟩
  · obtain ⟨htypes, -⟩ := h ⟨by decide, by decide⟩ (by decide) types _ rfl
    exact absurd htypes (by decide)
  · obtain ⟨-, hfunctions⟩ := h ⟨by decide, by decide⟩ (by decide) types _ rfl
    exact absurd (hfunctions _ List.mem_cons_self) (by decide)

end ProtoFile

end SwiftConnections
