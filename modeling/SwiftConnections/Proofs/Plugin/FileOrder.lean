import SwiftConnections.Proofs.Plugin.Generation
import SwiftConnections.Proofs.Plugin.PlainNames
import SwiftConnections.Proofs.Proto.TypeOrder

namespace SwiftConnections

namespace FileDecl

def withServices (decls : List FileDecl) : List FileDecl :=
  decls.filter (!·.services.isEmpty)

def path (decl : FileDecl) : Text :=
  decl.name.getD []

/-- Directory and base name, without the suffix. -/
def place (decl : FileDecl) : Text × Text :=
  ((PathParts.ofPath decl.path).dir, (PathParts.ofPath decl.path).base)

/-- The text that is generated for a file by itself, given the message types of all files. -/
def content? (types : TypeIndex) (helpers : Bool) (decl : FileDecl) : Option Text :=
  (ProtoFile.ofDecl decl 0).toOption.bind fun file => (file.swiftSource types helpers).toOption

end FileDecl

namespace Model

variable {decls decls' : List FileDecl} {model : Model} {config : Config} {response : Response}

/-- The position of a file matters only for the report that it has no name. -/
theorem ofFiles_eq_ok_iff : ofFiles decls = .ok model ↔
    decls.mapM (ProtoFile.ofDecl · 0) = .ok model.files ∧ model.types = typesOf decls := by
  rw [ofFiles_eq_ok_iff_carries, mapM_eq_ok_iff]
  simp only [ProtoFile.ofDecl_eq_ok_iff]

theorem map_sources (h : ofFiles decls = .ok model) :
    model.sources.map some = (FileDecl.withServices decls).map fun decl => (ProtoFile.ofDecl decl 0).toOption := by
  obtain ⟨hfiles, -⟩ := ofFiles_eq_ok_iff.mp h
  have hparts := mapM_eq_ok_iff.mp hfiles
  apply map_some_of_mapM
  rw [mapM_eq_ok_iff]
  refine List.rel_filter ?_ hparts
  intro decl file hfile
  have hservices := (ProtoFile.ofDecl_eq_ok_iff.mp hfile).hasServices_eq
  simp [hservices]

theorem exists_generate_iff_sources : (∃ response, model.generate config = .ok response) ↔
    ∀ source ∈ model.sources, ∃ content, source.swiftSource model.types config.helpers = .ok content := by
  rw [← exists_mapM_iff]
  constructor
  · rintro ⟨response, hresponse⟩
    obtain ⟨contents, hcontents, -⟩ := bind_eq_ok_iff.mp hresponse
    exact ⟨contents, hcontents⟩
  · rintro ⟨contents, hcontents⟩
    exact ⟨_, bind_eq_ok_iff.mpr ⟨contents, hcontents, rfl⟩⟩

/-- Generation succeeds if each file with services can be generated by itself. -/
theorem exists_generate_iff (h : ofFiles decls = .ok model) : (∃ response, model.generate config = .ok response) ↔
    ∀ decl ∈ FileDecl.withServices decls, (decl.content? model.types config.helpers).isSome := by
  have hmap := map_sources h
  rw [exists_generate_iff_sources]
  constructor
  · intro hall decl hdecl
    have hmem : (ProtoFile.ofDecl decl 0).toOption ∈ model.sources.map some := by
      rw [hmap]
      exact List.mem_map_of_mem hdecl
    obtain ⟨source, hsource, heq⟩ := List.mem_map.mp hmem
    obtain ⟨content, hcontent⟩ := hall source hsource
    rw [FileDecl.content?, ← heq, Option.bind_some, hcontent]
    rfl
  · intro hall source hsource
    have hmem := List.mem_map_of_mem (f := some) hsource
    rw [hmap] at hmem
    obtain ⟨decl, hdecl, heq⟩ := List.mem_map.mp hmem
    have hcontent := hall decl hdecl
    rw [FileDecl.content?, heq, Option.bind_some] at hcontent
    cases hs : source.swiftSource model.types config.helpers with
    | error e =>
      rw [hs] at hcontent
      cases hcontent
    | ok content => exact ⟨content, rfl⟩

theorem outputs_of_generate (h : ofFiles decls = .ok model) (hresponse : model.generate config = .ok response) :
    response.files.map (some ·.content) =
        (FileDecl.withServices decls).map (·.content? model.types config.helpers) ∧
      response.files.map (·.name) =
        config.nameTable.claimAll ((FileDecl.withServices decls).map (·.path)) := by
  obtain ⟨hcontents, hnames⟩ := generate_eq_ok_iff.mp hresponse
  constructor
  · have hsome := map_some_of_mapM (mapM_eq_ok_iff.mpr hcontents)
    have hmap := congrArg (List.map fun file => file.bind fun source : ProtoFile =>
      (source.swiftSource model.types config.helpers).toOption) (map_sources h)
    rw [List.map_map, List.map_map] at hmap
    rw [List.map_map] at hsome
    exact hsome.trans hmap
  · have hdeclared := names_sources (ofFiles_eq_ok h).1
    have hplain := congrArg (List.map fun name : Option Text => name.getD []) hdeclared
    rw [List.map_map, List.map_map] at hplain
    rw [hnames]
    exact congrArg _ hplain

/-- Under full paths, files of different directories or base names are named by their own paths alone. -/
theorem names_of_fullPath (h : ofFiles decls = .ok model) (hresponse : model.generate config = .ok response)
    (hnaming : config.naming = .fullPath)
    (hplaces : ((FileDecl.withServices decls).map (·.place)).Nodup) :
    response.files.map (·.name) =
      (FileDecl.withServices decls).map (outputName config.component .fullPath ·.path) := by
  have hown : ∀ path, config.nameTable.plain path = outputName config.component .fullPath path := by
    intro path
    rw [← hnaming]
    rfl
  have hdistinct : (((FileDecl.withServices decls).map (·.path)).map config.nameTable.plain).Nodup := by
    rw [List.map_map]
    refine List.pairwise_map.mpr ((List.pairwise_map.mp hplaces).imp fun hne heq => hne ?_)
    rw [Function.comp_apply, Function.comp_apply, hown, hown] at heq
    obtain ⟨hdir, hbase⟩ := outputName_fullPath_inj.mp heq
    rw [FileDecl.place, FileDecl.place, hdir, hbase]
  rw [(outputs_of_generate h hresponse).2, NameTable.claimAll_of_nodup hdistinct fun _ _ => List.not_mem_nil,
    List.map_map]
  exact List.map_congr_left fun decl _ => hown _

/-- Another order of the files changes neither the index of their messages nor whether generation succeeds, nor the
content of any file, nor its name where full paths tell the files apart. -/
theorem generate_of_perm (h : decls.Perm decls') (hmodel : ofFiles decls = .ok model)
    (hmessages : ((messagesOf decls).map (·.qualifiedName)).Nodup) (config : Config) :
    ∃ model', ofFiles decls' = .ok model' ∧ model'.types = model.types ∧
      ((∃ response, model.generate config = .ok response) ↔ ∃ response', model'.generate config = .ok response') ∧
      ∀ response response', model.generate config = .ok response → model'.generate config = .ok response' →
        (let content := FileDecl.content? model.types config.helpers
        response.files.map (some ·.content) = (FileDecl.withServices decls).map content ∧
          response'.files.map (some ·.content) = (FileDecl.withServices decls').map content) ∧
        (config.naming = .fullPath → ((FileDecl.withServices decls).map (·.place)).Nodup →
          let name := fun decl : FileDecl => outputName config.component .fullPath decl.path
          response.files.map (·.name) = (FileDecl.withServices decls).map name ∧
            response'.files.map (·.name) = (FileDecl.withServices decls').map name) := by
  obtain ⟨hfiles, htypes⟩ := ofFiles_eq_ok_iff.mp hmodel
  have hservices : (FileDecl.withServices decls).Perm (FileDecl.withServices decls') := h.filter _
  obtain ⟨files', hfiles'⟩ : ∃ files', decls'.mapM (ProtoFile.ofDecl · 0) = .ok files' := by
    have hall := exists_mapM_iff.mp ⟨model.files, hfiles⟩
    exact exists_mapM_iff.mpr fun decl hdecl => hall decl (h.mem_iff.mpr hdecl)
  have hmodel' : ofFiles decls' = .ok ⟨files', typesOf decls'⟩ := ofFiles_eq_ok_iff.mpr ⟨hfiles', rfl⟩
  have hsame : typesOf decls' = model.types := (typesOf_perm h hmessages).trans htypes.symm
  rw [hsame] at hmodel'
  refine ⟨⟨files', model.types⟩, hmodel', rfl, ?_, fun response response' hresponse hresponse' => ⟨?_, ?_⟩⟩
  · rw [exists_generate_iff hmodel, exists_generate_iff hmodel']
    exact forall_congr' fun decl => by rw [hservices.mem_iff]
  · exact ⟨(outputs_of_generate hmodel hresponse).1, (outputs_of_generate hmodel' hresponse').1⟩
  · intro hnaming hplaces
    exact ⟨names_of_fullPath hmodel hresponse hnaming hplaces,
      names_of_fullPath hmodel' hresponse' hnaming ((hservices.map _).nodup_iff.mp hplaces)⟩

/-- The second file refers to a message of the first one. -/
theorem generate_of_perm_swap :
    let types : FileDecl := { name := some "types.proto", package := some "p", messages := [{ name := some "M" }] }
    let service : FileDecl := {
      name := some "a/x.proto"
      services := [{
        name := some "S", methods := [{ name := some "Get", input := some ".p.M", output := some ".p.M" }] }] }
    let config : Config := {}
    ∃ model model', ofFiles [types, service] = .ok model ∧ ofFiles [service, types] = .ok model' ∧
      ∃ response response', model.generate config = .ok response ∧ model'.generate config = .ok response' ∧
        response.files.map (·.name) = ["a/x.zap.swift".toList] ∧
        response'.files.map (·.name) = ["a/x.zap.swift".toList] ∧
        response.files.map (some ·.content) = response'.files.map (some ·.content) := by
  intro types service config
  obtain ⟨model, hmodel⟩ : ∃ model, ofFiles [types, service] = .ok model := ⟨_, rfl⟩
  obtain ⟨model', hmodel', -, hgenerate, houtputs⟩ :=
    generate_of_perm (List.Perm.swap service types []) hmodel (by decide) config
  obtain ⟨response, hresponse⟩ : ∃ response, model.generate config = .ok response := by
    cases hmodel
    exact ⟨_, rfl⟩
  obtain ⟨response', hresponse'⟩ := hgenerate.mp ⟨response, hresponse⟩
  obtain ⟨⟨hcontent, hcontent'⟩, hnames⟩ := houtputs response response' hresponse hresponse'
  obtain ⟨hname, hname'⟩ := hnames rfl (by decide)
  exact ⟨model, model', hmodel, hmodel', response, response', hresponse, hresponse', hname.trans (by decide),
    hname'.trans (by decide), hcontent.trans hcontent'.symm⟩

end Model

end SwiftConnections
