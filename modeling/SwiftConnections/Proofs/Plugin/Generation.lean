import SwiftConnections.Plugin.Run
import SwiftConnections.Proofs.Plugin.OutputNames
import SwiftConnections.Proofs.Proto.ModelBuilding
import SwiftConnections.Proofs.Proto.TypeLookup

namespace SwiftConnections

theorem zipWith_generatedFile (files : List GeneratedFile) :
    List.zipWith GeneratedFile.mk (files.map (·.name)) (files.map (·.content)) = files := by
  rw [List.zipWith_map, List.zipWith_self]
  exact List.map_id files

theorem map_zipWith_generatedFile {names contents : List Text} (h : names.length = contents.length) :
    (List.zipWith GeneratedFile.mk names contents).map (·.name) = names ∧
      (List.zipWith GeneratedFile.mk names contents).map (·.content) = contents := by
  induction names generalizing contents with
  | nil => simp [List.length_eq_zero_iff.mp h.symm]
  | cons name names ih =>
    cases contents with
    | nil => simp at h
    | cons content contents =>
      obtain ⟨hnames, hcontents⟩ := ih (Nat.succ.inj h)
      exact ⟨congrArg (name :: ·) hnames, congrArg (content :: ·) hcontents⟩

namespace Model

/-- The files that get an output. -/
def sources (model : Model) : List ProtoFile :=
  model.files.filter (·.hasServices)

/-- One pass over the files: a file with services is generated and then named, and the names handed out go on to
the next one. -/
def onePass (types : TypeIndex) (helpers : Bool) (table : NameTable) :
    List ProtoFile → Except UnknownType (List GeneratedFile)
  | [] => .ok []
  | file :: files =>
    if file.hasServices then do
      let content ← file.swiftSource types helpers
      let claim := table.claim file.name
      let rest ← onePass types helpers claim.2 files
      pure (⟨claim.1, content⟩ :: rest)
    else onePass types helpers table files

theorem generate_eq_ok_iff {model : Model} {config : Config} {response : Response} :
    model.generate config = .ok response ↔
      List.Forall₂ (fun source content => source.swiftSource model.types config.helpers = .ok content)
        model.sources (response.files.map (·.content)) ∧
      response.files.map (·.name) = config.nameTable.claimAll (model.sources.map (·.name)) := by
  have hlength := (config.nameTable.runs_claimAll (model.sources.map (·.name))).length_eq
  rw [List.length_map] at hlength
  rw [generate, bind_eq_ok_iff]
  constructor
  · rintro ⟨contents, hmap, hresponse⟩
    have hcontents := mapM_eq_ok_iff.mp hmap
    have hparts := map_zipWith_generatedFile (hlength.trans hcontents.length_eq)
    cases hresponse
    exact ⟨hparts.2.symm ▸ hcontents, hparts.1⟩
  · rintro ⟨hcontents, hnames⟩
    have hmap := mapM_eq_ok_iff.mpr hcontents
    refine ⟨_, hmap, ?_⟩
    have hfiles := zipWith_generatedFile response.files
    rw [hnames] at hfiles
    exact congrArg (fun files => Except.ok (Response.mk files)) hfiles

/-- A pass that succeeds has the contents and the names of all files with services, in order. -/
theorem onePass_eq_ok_iff {types : TypeIndex} {helpers : Bool} {table : NameTable} {files : List ProtoFile}
    {outputs : List GeneratedFile} :
    onePass types helpers table files = .ok outputs ↔
      List.Forall₂ (fun source content => source.swiftSource types helpers = .ok content)
        (files.filter (·.hasServices)) (outputs.map (·.content)) ∧
      outputs.map (·.name) = table.claimAll ((files.filter (·.hasServices)).map (·.name)) := by
  induction files generalizing table outputs with
  | nil =>
    cases outputs <;> simp [onePass, NameTable.claimAll]
  | cons file files ih =>
    by_cases hs : file.hasServices = true
    · rw [onePass, if_pos hs, List.filter_cons_of_pos hs, bind_eq_ok_iff]
      constructor
      · rintro ⟨content, hcontent, h⟩
        obtain ⟨rest, hrest, h⟩ := bind_eq_ok_iff.mp h
        cases h
        obtain ⟨hcontents, hnames⟩ := ih.mp hrest
        exact ⟨.cons hcontent hcontents, congrArg (_ :: ·) hnames⟩
      · rintro ⟨hcontents, hnames⟩
        cases outputs with
        | nil => cases hcontents
        | cons output outputs =>
          obtain ⟨hcontent, hcontents⟩ := List.forall₂_cons.mp hcontents
          obtain ⟨hname, hnames⟩ := List.cons.inj hnames
          refine ⟨output.content, hcontent, bind_eq_ok_iff.mpr ⟨outputs, ih.mpr ⟨hcontents, hnames⟩, ?_⟩⟩
          exact congrArg (fun name => Except.ok (GeneratedFile.mk name output.content :: outputs)) hname.symm
    · rw [onePass, if_neg hs, List.filter_cons_of_neg hs]
      exact ih

end Model

theorem ProtoFile.Carries.hasServices_eq {decl : FileDecl} {file : ProtoFile} (h : file.Carries decl) :
    file.hasServices = !decl.services.isEmpty := by
  have hempty : file.services.isEmpty = decl.services.isEmpty := by
    rw [Bool.eq_iff_iff, List.isEmpty_iff_length_eq_zero, List.isEmpty_iff_length_eq_zero, h.services.length_eq]
  exact congrArg (!·) hempty

/-- The files of a model are the declared ones in the same order. -/
theorem Model.ofFiles_eq_ok {decls : List FileDecl} {model : Model} (h : Model.ofFiles decls = .ok model) :
    List.Forall₂ (fun decl file => decl.name = some file.name ∧ file.hasServices = !decl.services.isEmpty)
      decls model.files ∧ model.types = Model.typesOf decls := by
  obtain ⟨hfiles, htypes⟩ := Model.ofFiles_eq_ok_iff_carries.mp h
  exact ⟨hfiles.imp fun _ _ hfile => ⟨hfile.name, hfile.hasServices_eq⟩, htypes⟩

theorem Model.names_sources {decls : List FileDecl} {files : List ProtoFile}
    (h : List.Forall₂ (fun decl file => decl.name = some file.name ∧ file.hasServices = !decl.services.isEmpty)
      decls files) :
    (files.filter (·.hasServices)).map (some ·.name) = (decls.filter (!·.services.isEmpty)).map (·.name) := by
  induction h with
  | nil => rfl
  | @cons decl file decls files hfile _ ih =>
    obtain ⟨hname, hservices⟩ := hfile
    simp only [List.filter_cons, hservices]
    split
    · rw [List.map_cons, List.map_cons, ih, hname]
    · exact ih

namespace Job

variable {request : Request} {job : Job} {config : Config} {response : Response}

theorem model_of_request (h : request.job = .ok job) : Model.ofFiles request.files = .ok job.model := by
  obtain ⟨model, hmodel, h⟩ := bind_eq_ok_iff.mp h
  cases h
  exact hmodel

/-- A response has one file for each declared file with services: its content is generated with the message types
of all declared files, and its name is the one claimed for it in a single pass. -/
theorem response_of_request (hjob : request.job = .ok job) (hresponse : job.model.generate config = .ok response) :
    let types := Model.typesOf request.files
    let names := response.files.map (·.name)
    job.model.sources.map (some ·.name) = (request.files.filter (!·.services.isEmpty)).map (·.name) ∧
      List.Forall₂ (fun source file => source.swiftSource types config.helpers = .ok file.content)
        job.model.sources response.files ∧
      (∀ name, types.get? ('.' :: name) = (Model.messagesOf request.files).reverse.find? (·.qualifiedName = name)) ∧
      Model.onePass types config.helpers config.nameTable job.model.files = .ok response.files ∧
      names = NameTable.claimAll { component := config.component, naming := config.naming }
        (job.model.sources.map (·.name)) ∧
      names.Nodup ∧
      ∀ name ∈ names, ("." ++ config.component ++ ".swift" : Text) <:+ name := by
  intro types names
  obtain ⟨hfiles, htypes⟩ := Model.ofFiles_eq_ok (model_of_request hjob)
  obtain ⟨hcontents, hnames⟩ := Model.generate_eq_ok_iff.mp hresponse
  rw [htypes] at hcontents
  have hruns := config.nameTable.runs_claimAll (job.model.sources.map (·.name))
  rw [← hnames] at hruns
  have hfile : List.Forall₂ (fun source file => source.swiftSource types config.helpers = .ok file.content)
      job.model.sources response.files :=
    (List.forall₂_map_right_iff (f := GeneratedFile.content)).mp hcontents
  have hnodup : names.Nodup := by
    have hclaimed : names = config.nameTable.claimAll (job.model.sources.map (·.name)) := hnames
    rw [hclaimed]
    exact NameTable.nodup_claimAll config.component config.naming _
  exact ⟨Model.names_sources hfiles, hfile, Model.get?_typesOf request.files,
    Model.onePass_eq_ok_iff.mpr ⟨hcontents, hnames⟩, hnames, hnodup, hruns.suffix⟩

/-- The first file has no services, but a type that a method of the second file refers to. -/
theorem response_of_request_collision :
    let request : Request := { files := [
      { name := some "types.proto", package := some "p", messages := [{ name := some "M" }] },
      { name := some "a/x.proto", services := [{
        name := some "S", methods := [{ name := some "Get", input := some ".p.M", output := some ".p.M" }] }] },
      { name := some "b/x.proto", services := [{ name := some "T" }] }] }
    let config : Config := { naming := .dropPath }
    ∃ job response, request.job = .ok job ∧ job.model.generate config = .ok response ∧
      response.files.map (·.name) = ["x.zap.swift", "x.1.zap.swift"] := by
  intro request config
  refine ⟨_, _, rfl, rfl, ?_⟩
  obtain ⟨-, -, -, -, hnames, -⟩ := @response_of_request request _ config _ rfl rfl
  exact hnames.trans (by decide)

end Job

end SwiftConnections
