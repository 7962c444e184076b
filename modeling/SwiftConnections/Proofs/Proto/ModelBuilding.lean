import SwiftConnections.Proofs.Except
import SwiftConnections.Proofs.Proto.TypeLookup

namespace SwiftConnections

section Lists

variable {α β γ : Type}

theorem findSome?_flatMap (f : α → List β) (g : β → Option γ) (inputs : List α) :
    (inputs.flatMap f).findSome? g = inputs.findSome? fun a => (f a).findSome? g := by
  induction inputs with
  | nil => rfl
  | cons a inputs ih =>
    rw [List.flatMap_cons, List.findSome?_append, ih, List.findSome?_cons]
    cases (f a).findSome? g <;> rfl

theorem map_zipIdx_fst (f : α → β) (inputs : List α) : (inputs.zipIdx.map fun input => f input.1) = inputs.map f := by
  rw [← Function.comp_def f, ← List.map_map, List.zipIdx_map_fst]

theorem flatMap_zipIdx_fst (f : α → List β) (inputs : List α) :
    (inputs.zipIdx.flatMap fun input => f input.1) = inputs.flatMap f := by
  rw [List.flatMap_def, map_zipIdx_fst, List.flatMap_def]

end Lists

/-- There is no name, or an empty one. -/
def IsUnnamed (name : Option Text) : Prop :=
  name = none ∨ name = some []

theorem nonemptyName_of_isUnnamed {name : Option Text} (h : IsUnnamed name) (e : MissingName) :
    nonemptyName name e = .error e := by
  rcases h with rfl | rfl <;> rfl

theorem nonemptyName_some {name : Text} (h : name ≠ []) (e : MissingName) : nonemptyName (some name) e = .ok name := by
  rw [nonemptyName, Option.filter_some, if_pos (decide_eq_true h)]

theorem isUnnamed_or_exists (name : Option Text) : IsUnnamed name ∨ ∃ n, n ≠ [] ∧ name = some n := by
  cases name with
  | none => exact .inl (.inl rfl)
  | some name =>
    by_cases h : name = []
    · exact .inl (.inr (congrArg some h))
    · exact .inr ⟨name, h, rfl⟩

theorem not_isUnnamed_some {name : Text} (h : name ≠ []) : ¬ IsUnnamed (some name) := by
  rintro (hnone | hempty)
  · cases hnone
  · exact h (Option.some.inj hempty)

theorem nonemptyName_eq_ok_iff {name : Option Text} {e : MissingName} {n : Text} :
    nonemptyName name e = .ok n ↔ name = some n ∧ n ≠ [] := by
  constructor
  · intro h
    rcases isUnnamed_or_exists name with hname | ⟨n', hn', rfl⟩
    · rw [nonemptyName_of_isUnnamed hname] at h
      cases h
    · rw [nonemptyName_some hn'] at h
      cases h
      exact ⟨rfl, hn'⟩
  · rintro ⟨rfl, hn⟩
    exact nonemptyName_some hn e

theorem nonemptyName_bind_eq_ok_iff {α : Type} {name : Option Text} {e : MissingName}
    {f : Text → Except MissingName α} {a : α} :
    nonemptyName name e >>= f = .ok a ↔ ∃ n, name = some n ∧ n ≠ [] ∧ f n = .ok a := by
  rw [bind_eq_ok_iff]
  simp only [nonemptyName_eq_ok_iff, and_assoc]

/-- Where a name has to stand in the declarations of a file. -/
structure NameSlot where
  name : Option Text
  /-- What is reported if the name is missing. -/
  report : MissingName

namespace NameSlot

def missing? (slot : NameSlot) : Option MissingName :=
  failure? (nonemptyName slot.name slot.report)

theorem missing?_eq_some_iff {slot : NameSlot} {e : MissingName} :
    slot.missing? = some e ↔ IsUnnamed slot.name ∧ slot.report = e := by
  rcases isUnnamed_or_exists slot.name with h | ⟨n, hn, h⟩
  · simp [missing?, nonemptyName_of_isUnnamed h, failure?, h]
  · simp [missing?, h, nonemptyName_some hn, failure?, not_isUnnamed_some hn]

theorem isSome_missing?_iff {slot : NameSlot} : slot.missing?.isSome ↔ IsUnnamed slot.name := by
  rw [Option.isSome_iff_exists]
  simp only [missing?_eq_some_iff, exists_and_left, exists_eq', and_true]

theorem missing?_eq_none_iff {slot : NameSlot} : slot.missing? = none ↔ ¬ IsUnnamed slot.name := by
  rw [← isSome_missing?_iff, Option.not_isSome_iff_eq_none]

/-- Where a computation starts with a name, it fails for the name or goes on with it. -/
theorem failure?_bind {α : Type} (slot : NameSlot) (f : Text → Except MissingName α) :
    failure? (nonemptyName slot.name slot.report >>= f) =
      slot.missing?.or (failure? (f (slot.name.getD []))) := by
  rcases isUnnamed_or_exists slot.name with h | ⟨n, hn, h⟩
  · rw [missing?, nonemptyName_of_isUnnamed h]
    rfl
  · rw [missing?, h, nonemptyName_some hn]
    rfl

end NameSlot

section Slots

/-- The slots in a service at a position of a file, in the order of the text. -/
def ServiceDecl.nameSlots (file : Text) (decl : ServiceDecl) (index : Nat) : List NameSlot :=
  ⟨decl.name, .service file index⟩ ::
    decl.methods.zipIdx.map fun (method, i) => ⟨method.name, .method file (decl.name.getD []) i⟩

def FileDecl.nameSlots (decl : FileDecl) (index : Nat) : List NameSlot :=
  ⟨decl.name, .file index⟩ :: decl.services.zipIdx.flatMap fun (service, i) => service.nameSlots (decl.name.getD []) i

/-- The slots in a list of files: each file before its services, each service before its methods. -/
def Model.nameSlots (decls : List FileDecl) : List NameSlot :=
  decls.zipIdx.flatMap fun (decl, i) => decl.nameSlots i

theorem findSome?_cons_slots (slot : NameSlot) (slots : List NameSlot) :
    (slot :: slots).findSome? NameSlot.missing? = slot.missing?.or (slots.findSome? NameSlot.missing?) := by
  rw [List.findSome?_cons]
  cases slot.missing? <;> rfl

theorem failure?_ofMethodDecl (file service : Text) (decl : MethodDecl) (index : Nat) :
    failure? (Method.ofDecl file service decl index) =
      NameSlot.missing? ⟨decl.name, .method file service index⟩ :=
  failure?_bind_pure _ _

theorem failure?_ofServiceDecl (file : Text) (decl : ServiceDecl) (index : Nat) :
    failure? (Service.ofDecl file decl index) = (decl.nameSlots file index).findSome? NameSlot.missing? := by
  rw [Service.ofDecl, NameSlot.failure?_bind ⟨decl.name, .service file index⟩, ServiceDecl.nameSlots,
    findSome?_cons_slots, failure?_bind_pure, failure?_mapM, List.findSome?_map]
  simp only [failure?_ofMethodDecl]
  rfl

theorem failure?_ofFileDecl (decl : FileDecl) (index : Nat) :
    failure? (ProtoFile.ofDecl decl index) = (decl.nameSlots index).findSome? NameSlot.missing? := by
  rw [ProtoFile.ofDecl, NameSlot.failure?_bind ⟨decl.name, .file index⟩, FileDecl.nameSlots,
    findSome?_cons_slots, failure?_bind_pure, failure?_mapM, findSome?_flatMap]
  simp only [failure?_ofServiceDecl]

theorem failure?_ofFiles (decls : List FileDecl) :
    failure? (Model.ofFiles decls) = (Model.nameSlots decls).findSome? NameSlot.missing? := by
  rw [Model.ofFiles, failure?_bind_pure, failure?_mapM, Model.nameSlots, findSome?_flatMap]
  simp only [failure?_ofFileDecl]

def FileDecl.names (decl : FileDecl) : List (Option Text) :=
  decl.name :: decl.services.flatMap fun service => service.name :: service.methods.map (·.name)

theorem map_name_nameSlots (decls : List FileDecl) : (Model.nameSlots decls).map (·.name) = decls.flatMap (·.names) := by
  have hservice : ∀ (file : Text) (service : ServiceDecl) (i : Nat),
      (service.nameSlots file i).map (·.name) = service.name :: service.methods.map (·.name) := by
    intro file service i
    rw [ServiceDecl.nameSlots, List.map_cons, List.map_map]
    exact congrArg (service.name :: ·) (map_zipIdx_fst (·.name) service.methods)
  have hfile : ∀ (decl : FileDecl) (i : Nat), (decl.nameSlots i).map (·.name) = decl.names := by
    intro decl i
    rw [FileDecl.nameSlots, List.map_cons, List.map_flatMap]
    simp only [hservice]
    exact congrArg (decl.name :: ·)
      (flatMap_zipIdx_fst (fun service => service.name :: service.methods.map (·.name)) decl.services)
  rw [Model.nameSlots, List.map_flatMap]
  simp only [hfile]
  exact flatMap_zipIdx_fst (·.names) decls

theorem exists_unnamed_slot_iff (decls : List FileDecl) :
    (∃ slot ∈ Model.nameSlots decls, IsUnnamed slot.name) ↔
      ∃ decl ∈ decls, IsUnnamed decl.name ∨ ∃ service ∈ decl.services, IsUnnamed service.name ∨
        ∃ method ∈ service.methods, IsUnnamed method.name := by
  have hnames : (∃ slot ∈ Model.nameSlots decls, IsUnnamed slot.name) ↔
      ∃ name ∈ decls.flatMap (·.names), IsUnnamed name := by
    rw [← map_name_nameSlots]
    simp
  rw [hnames]
  -- The positions are gone, and what is left moves the quantifiers over the three levels inwards.
  simp only [FileDecl.names, List.mem_flatMap, List.mem_cons, List.mem_map]
  grind

end Slots

section Carrying

/-- The method is the declared one: all that is given is kept, absent texts are empty and absent flags are off. -/
structure Method.Carries (m : Method) (decl : MethodDecl) : Prop where
  name : decl.name = some m.name
  named : m.name ≠ []
  input : m.input = decl.input.getD []
  output : m.output = decl.output.getD []
  clientStreaming : m.clientStreaming = decl.clientStreaming.getD false
  serverStreaming : m.serverStreaming = decl.serverStreaming.getD false
  deprecated : m.options.deprecated = (decl.options.bind (·.deprecated)).getD false
  http : m.options.http = decl.options.bind (·.http)

structure Service.Carries (s : Service) (decl : ServiceDecl) : Prop where
  name : decl.name = some s.name
  named : s.name ≠ []
  methods : List.Forall₂ (fun decl m => Method.Carries m decl) decl.methods s.methods

structure ProtoFile.Carries (file : ProtoFile) (decl : FileDecl) : Prop where
  name : decl.name = some file.name
  named : file.name ≠ []
  package : file.package = decl.package.getD []
  swiftPrefix : file.swiftPrefix = decl.options.bind (·.swiftPrefix)
  services : List.Forall₂ (fun decl s => Service.Carries s decl) decl.services file.services

theorem Method.ofDecl_eq_ok_iff {file service : Text} {decl : MethodDecl} {index : Nat} {m : Method} :
    ofDecl file service decl index = .ok m ↔ m.Carries decl := by
  rw [ofDecl, nonemptyName_bind_eq_ok_iff]
  constructor
  · rintro ⟨name, hname, hnamed, h⟩
    cases h
    exact ⟨hname, hnamed, rfl, rfl, rfl, rfl, by cases decl.options <;> rfl, by cases decl.options <;> rfl⟩
  · intro h
    obtain ⟨name, input, output, clientStreaming, serverStreaming, ⟨deprecated, http⟩⟩ := m
    obtain ⟨hname, hnamed, rfl, rfl, rfl, rfl, rfl, rfl⟩ := h
    refine ⟨name, hname, hnamed, ?_⟩
    cases decl.options <;> rfl

theorem Service.ofDecl_eq_ok_iff {file : Text} {decl : ServiceDecl} {index : Nat} {s : Service} :
    ofDecl file decl index = .ok s ↔ s.Carries decl := by
  have hmethods : ∀ {name : Text} {methods : List Method},
      (decl.methods.zipIdx.mapM fun (m, i) => Method.ofDecl file name m i) = .ok methods ↔
        List.Forall₂ (fun decl m => Method.Carries m decl) decl.methods methods :=
    mapM_zipIdx_eq_ok_iff fun _ _ _ => Method.ofDecl_eq_ok_iff
  rw [ofDecl, nonemptyName_bind_eq_ok_iff]
  simp only [bind_pure_eq_ok_iff, hmethods]
  constructor
  · rintro ⟨name, hname, hnamed, methods, hresults, rfl⟩
    exact ⟨hname, hnamed, hresults⟩
  · rintro ⟨hname, hnamed, hresults⟩
    exact ⟨s.name, hname, hnamed, s.methods, hresults, rfl⟩

theorem ProtoFile.ofDecl_eq_ok_iff {decl : FileDecl} {index : Nat} {file : ProtoFile} :
    ofDecl decl index = .ok file ↔ file.Carries decl := by
  have hservices : ∀ {name : Text} {services : List Service},
      (decl.services.zipIdx.mapM fun (s, i) => Service.ofDecl name s i) = .ok services ↔
        List.Forall₂ (fun decl s => Service.Carries s decl) decl.services services :=
    mapM_zipIdx_eq_ok_iff fun _ _ _ => Service.ofDecl_eq_ok_iff
  rw [ofDecl, nonemptyName_bind_eq_ok_iff]
  simp only [bind_pure_eq_ok_iff, hservices]
  constructor
  · rintro ⟨name, hname, hnamed, services, hresults, rfl⟩
    exact ⟨hname, hnamed, rfl, rfl, hresults⟩
  · intro h
    obtain ⟨name, package, swiftPrefix, services⟩ := file
    obtain ⟨hname, hnamed, rfl, rfl, hresults⟩ := h
    exact ⟨name, hname, hnamed, services, hresults, rfl⟩

theorem Model.ofFiles_eq_ok_iff_carries {decls : List FileDecl} {model : Model} :
    ofFiles decls = .ok model ↔
      List.Forall₂ (fun decl file => ProtoFile.Carries file decl) decls model.files ∧ model.types = typesOf decls := by
  have hfiles : ∀ {files : List ProtoFile},
      (decls.zipIdx.mapM fun (decl, i) => ProtoFile.ofDecl decl i) = .ok files ↔
        List.Forall₂ (fun decl file => ProtoFile.Carries file decl) decls files :=
    mapM_zipIdx_eq_ok_iff fun _ _ _ => ProtoFile.ofDecl_eq_ok_iff
  rw [ofFiles, bind_pure_eq_ok_iff]
  simp only [hfiles]
  constructor
  · rintro ⟨files, hresults, rfl⟩
    exact ⟨hresults, rfl⟩
  · rintro ⟨hresults, htypes⟩
    obtain ⟨files, types⟩ := model
    cases htypes
    exact ⟨files, hresults, rfl⟩

end Carrying

namespace MissingName

def kind : MissingName → Text
  | file _ => "file"
  | service _ _ => "service"
  | method _ _ _ => "method"

/-- The names around the declaration, from the outermost on, and its position in their list. -/
def location : MissingName → Text
  | file index => "proto_file[" ++ Text.ofNat index ++ "]"
  | service path index => path ++ " service[" ++ Text.ofNat index ++ "]"
  | method path owner index => path ++ " " ++ owner ++ " method[" ++ Text.ofNat index ++ "]"

theorem message_eq (e : MissingName) : e.message = e.kind ++ " descriptor at " ++ e.location ++ " has no name" := by
  have hend : ("] has no name".toList : Text) = "]" ++ " has no name" := rfl
  have hfile : ("proto_file[".toList : Text) = "proto_file" ++ "[" := rfl
  have hservice : (" service[".toList : Text) = " " ++ ("service" ++ "[") := rfl
  have hmethod : (" method[".toList : Text) = " " ++ ("method" ++ "[") := rfl
  -- By the definitions themselves: their equation lemmas would compute the literals.
  unfold message kind location
  cases e with
  | file index => simp only [hend, hfile, List.append_assoc, List.nil_append]
  | service path index => simp only [hend, hservice, List.append_assoc]
  | method path owner index => simp only [hend, hmethod, List.append_assoc]

end MissingName

namespace Model

theorem exists_error_iff (decls : List FileDecl) :
    (∃ e, ofFiles decls = .error e) ↔ ∃ slot ∈ nameSlots decls, IsUnnamed slot.name := by
  simp only [← failure?_eq_some_iff, failure?_ofFiles]
  rw [← Option.isSome_iff_exists, List.findSome?_isSome_iff]
  simp only [NameSlot.isSome_missing?_iff]

theorem ofFiles_eq_error_iff {decls : List FileDecl} {e : MissingName} :
    ofFiles decls = .error e ↔ ∃ before slot after, nameSlots decls = before ++ slot :: after ∧
      IsUnnamed slot.name ∧ slot.report = e ∧ ∀ earlier ∈ before, ¬ IsUnnamed earlier.name := by
  rw [← failure?_eq_some_iff, failure?_ofFiles, List.findSome?_eq_some_iff]
  simp only [NameSlot.missing?_eq_some_iff, NameSlot.missing?_eq_none_iff, and_assoc]

/-- A model is built unless a file, a service or a method has no name. Then the first of these in the order of the
text is reported by its kind and its location. Otherwise the model has the declared files, services and methods in
their order, and the message types of all files are indexed: a name finds the last message that has it. -/
theorem ofFiles_carries_or_reports (decls : List FileDecl) :
    let types := decls.foldl (fun types decl =>
      types.insertFile (decl.package.getD []) (decl.options.bind (·.swiftPrefix)) decl.messages) .empty
    ((∃ e, ofFiles decls = .error e) ↔
      ∃ decl ∈ decls, IsUnnamed decl.name ∨ ∃ service ∈ decl.services, IsUnnamed service.name ∨
        ∃ method ∈ service.methods, IsUnnamed method.name) ∧
    (∀ e, ofFiles decls = .error e ↔
      (∃ before slot after, nameSlots decls = before ++ slot :: after ∧ IsUnnamed slot.name ∧ slot.report = e ∧
        ∀ earlier ∈ before, ¬ IsUnnamed earlier.name) ∧
      e.message = e.kind ++ " descriptor at " ++ e.location ++ " has no name") ∧
    (∀ model, ofFiles decls = .ok model ↔
      List.Forall₂ (fun decl file => ProtoFile.Carries file decl) decls model.files ∧ model.types = types) ∧
    ∀ name, types.get? ('.' :: name) = (messagesOf decls).reverse.find? (·.qualifiedName = name) := by
  refine ⟨?_, fun e => ?_, fun model => ofFiles_eq_ok_iff_carries, get?_typesOf decls⟩
  · rw [exists_error_iff, exists_unnamed_slot_iff]
  · rw [ofFiles_eq_error_iff]
    exact ⟨fun h => ⟨h, e.message_eq⟩, fun h => h.1⟩

example :
    let unnamed : FileDecl := { name := some "b.proto", services := [
      { name := some "S", methods := [{ name := some "Get" }, { name := some [] }] }, {}] }
    (failure? (ofFiles [{ name := some "a.proto" }, unnamed, {}])).map (·.message) =
      some ("method descriptor at b.proto S method[1] has no name" : Text) := by
  decide

end Model

end SwiftConnections
