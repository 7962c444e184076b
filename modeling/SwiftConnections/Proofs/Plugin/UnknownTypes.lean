import SwiftConnections.Proofs.Plugin.Generation

namespace SwiftConnections

/-- The references of a method in the order in which they are resolved, each as it is reported if it is unknown. -/
def Method.references (m : Method) : List UnknownType :=
  [⟨m.input, m.name⟩, ⟨m.output, m.name⟩]

def Service.references (s : Service) : List UnknownType :=
  s.methods.flatMap (·.references)

def ProtoFile.references (file : ProtoFile) : List UnknownType :=
  file.services.flatMap (·.references)

def Model.references (model : Model) : List UnknownType :=
  model.files.flatMap (·.references)

/-- No message answers to the reference. -/
def TypeIndex.lacks (types : TypeIndex) (r : UnknownType) : Bool :=
  (types.get? r.reference).isNone

theorem TypeIndex.lacks_eq_false_iff {types : TypeIndex} {r : UnknownType} :
    types.lacks r = false ↔ ∃ m, types.get? r.reference = some m := by
  rw [lacks, Option.isNone_eq_false_iff, Option.isSome_iff_exists]

/-- What a computation comes to that resolves references in order. -/
structure ReportsFirst {α : Type} (types : TypeIndex) (references : List UnknownType)
    (outcome : Except UnknownType α) : Prop where
  succeeds_iff : (∃ a, outcome = .ok a) ↔ ∀ r ∈ references, ∃ m, types.get? r.reference = some m
  error_iff : ∀ e, outcome = .error e ↔ types.get? e.reference = none ∧
    ∃ before after, references = before ++ e :: after ∧ ∀ r ∈ before, ∃ m, types.get? r.reference = some m

theorem ReportsFirst.of_failure? {α : Type} {types : TypeIndex} {references : List UnknownType}
    {outcome : Except UnknownType α} (h : failure? outcome = references.find? types.lacks) :
    ReportsFirst types references outcome := by
  constructor
  · rw [← failure?_eq_none_iff, h, List.find?_eq_none]
    refine forall₂_congr fun r _ => ?_
    rw [Bool.not_eq_true, TypeIndex.lacks_eq_false_iff]
  · intro e
    rw [← failure?_eq_some_iff, h, List.find?_eq_some_iff_append, TypeIndex.lacks, Option.isNone_iff_eq_none]
    simp only [Bool.not_eq_true', TypeIndex.lacks_eq_false_iff]

section Failures

variable {types : TypeIndex}

theorem failure?_swiftName (reference method : Text) :
    failure? (types.swiftName reference method) = [⟨reference, method⟩].find? types.lacks := by
  rw [TypeIndex.swiftName, List.find?_singleton, TypeIndex.lacks]
  cases types.get? reference <;> rfl

theorem failure?_ofMethod (service : Text) (m : Method) :
    failure? (SwiftMethod.ofMethod types service m) = m.references.find? types.lacks := by
  have houtput : ∀ input : Text, failure? (types.swiftName m.output m.name >>= fun output =>
      pure (⟨m.name, functionName m.name, input, output, m.shape, bridgeFunction service m.name,
        m.options.binding⟩ : SwiftMethod)) = [⟨m.output, m.name⟩].find? types.lacks :=
    fun input => (failure?_bind_pure _ _).trans (failure?_swiftName _ _)
  have hboth : m.references = [⟨m.input, m.name⟩] ++ [⟨m.output, m.name⟩] := rfl
  rw [hboth, List.find?_append, ← failure?_swiftName]
  exact failure?_bind houtput

theorem failure?_ofService (file : ProtoFile) (s : Service) :
    failure? (SwiftService.ofService types file s) = s.references.find? types.lacks := by
  rw [SwiftService.ofService, failure?_bind_pure, failure?_mapM, Service.references, List.find?_flatMap]
  simp only [failure?_ofMethod]

theorem failure?_swiftServices (file : ProtoFile) :
    failure? (file.swiftServices types) = file.references.find? types.lacks := by
  rw [ProtoFile.swiftServices, failure?_mapM, ProtoFile.references, List.find?_flatMap]
  simp only [failure?_ofService]

theorem failure?_swiftSource (helpers : Bool) (file : ProtoFile) :
    failure? (file.swiftSource types helpers) = file.references.find? types.lacks := by
  rw [ProtoFile.swiftSource, failure?_bind_pure, failure?_swiftServices]

end Failures

/-- A file without services refers to nothing. -/
theorem ProtoFile.references_of_not_hasServices {file : ProtoFile} (h : ¬ file.hasServices = true) :
    file.references = [] := by
  have hempty : file.services = [] := by simpa [hasServices] using h
  rw [references, hempty, List.flatMap_nil]

namespace Model

theorem references_sources (files : List ProtoFile) :
    (files.filter (·.hasServices)).flatMap (·.references) = files.flatMap (·.references) := by
  induction files with
  | nil => rfl
  | cons file files ih =>
    by_cases hs : file.hasServices = true
    · rw [List.filter_cons_of_pos hs, List.flatMap_cons, List.flatMap_cons, ih]
    · rw [List.filter_cons_of_neg hs, List.flatMap_cons, ih, file.references_of_not_hasServices hs, List.nil_append]

theorem failure?_generate (model : Model) (config : Config) :
    failure? (model.generate config) = model.references.find? model.types.lacks := by
  rw [generate, failure?_bind_pure, failure?_mapM, references, ← references_sources,
    List.find?_flatMap]
  simp only [failure?_swiftSource]

/-- Names are claimed between the files, but no claim fails. -/
theorem failure?_onePass (types : TypeIndex) (helpers : Bool) (table : NameTable) (files : List ProtoFile) :
    failure? (onePass types helpers table files) = (files.flatMap (·.references)).find? types.lacks := by
  induction files generalizing table with
  | nil => rfl
  | cons file files ih =>
    rw [List.flatMap_cons, List.find?_append, onePass]
    split
    next =>
      rw [← failure?_swiftSource helpers]
      exact failure?_bind fun content => (failure?_bind_pure _ _).trans (ih _)
    next hs => rw [ih, file.references_of_not_hasServices hs, List.find?_nil, Option.none_or]

/-- Generation succeeds if every method of every service refers to known messages, and else it fails at the first
reference, in the order of the files, that is unknown. So it does where each file is named as soon as it is
generated, and so does the generation of one file. -/
theorem generate_reports_first (model : Model) (config : Config) :
    ReportsFirst model.types model.references (model.generate config) ∧
      ReportsFirst model.types model.references
        (onePass model.types config.helpers config.nameTable model.files) ∧
      ∀ (types : TypeIndex) (file : ProtoFile),
        ReportsFirst types file.references (file.swiftServices types) ∧
        ∀ helpers, ReportsFirst types file.references (file.swiftSource types helpers) := by
  refine ⟨.of_failure? (model.failure?_generate config), .of_failure? (failure?_onePass _ _ _ _), ?_⟩
  intro types file
  exact ⟨.of_failure? (failure?_swiftServices file), fun helpers => .of_failure? (failure?_swiftSource helpers file)⟩

end Model

end SwiftConnections
