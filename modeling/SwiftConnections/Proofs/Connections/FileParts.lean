import SwiftConnections.Connections.File
import SwiftConnections.Proofs.Connections.MethodCode
import SwiftConnections.Proofs.Swift.Tidying

namespace SwiftConnections

/-- The comment at the top of a generated file. -/
def noticeCode (source : Text) : List Step :=
  List.flatMap line ["//", "// DO NOT EDIT.", "//", "// Generated by `protoc-gen-zap`.", "// Source: " ++ source, "//"]

def importLines : List Text :=
  ["#if !REMOTEONLY", "import Lndmobile", "#endif", "import Logger"]

theorem headerCode_eq (source : Text) :
    headerCode source = noticeCode source ++ [.newline] ++ importLines.flatMap line := rfl

theorem noticeCode_settles (source : Text) : Settles (noticeCode source) :=
  .flatMap fun t _ => .line t

theorem importLines_settles : Settles (importLines.flatMap line) :=
  .flatMap fun t _ => .line t

theorem headerCode_settles (source : Text) : Settles (headerCode source) :=
  headerCode_eq source ▸ ((noticeCode_settles source).append .emptyLine).append importLines_settles

theorem render_headerCode (source : Text) :
    render 0 (headerCode source) = render 0 (noticeCode source) ++ ['\n'] ++ Text.unlines importLines := by
  have hnotice := noticeCode_settles source
  rw [headerCode_eq, (hnotice.append .emptyLine).render_append importLines_settles, hnotice.render_append .emptyLine]
  rfl

theorem importLines_endsInContent : EndsInContent (Text.unlines importLines) := by
  have hlast : importLines = importLines.dropLast ++ ["import Logger".toList] := rfl
  rw [hlast]
  exact .unlines (c := 'i') (by decide) (by decide) (by decide) (by decide)

/-- The header ends in the imports, and so it does when it is tidied. -/
theorem importLines_isSuffix_tidy (source : Text) :
    Text.unlines importLines <:+ tidy (render 0 (headerCode source)) := by
  have htidy : tidy (Text.unlines importLines) = Text.unlines importLines := by decide +kernel
  rw [render_headerCode, importLines_endsInContent.tidy_append_left (.concat _), htidy]
  exact List.suffix_append _ _

namespace Support

theorem snippets_settle (ts : List Text) : ∀ code ∈ ts.map snippet, Settles code :=
  List.forall_mem_map.mpr fun t _ => .snippet t

theorem code_settles : Settles code :=
  (Settles.line _).append (.separated (snippets_settle _))

theorem code_eq : code = line "// MARK: - Helper Methods" ++
    separated ([bridgeCallback, streamResultHandler, unaryHandler].map snippet) ++ [.newline] ++ snippet resultExtension := by
  simp only [code, List.map_cons, List.map_nil, separated_cons_cons, separated_singleton, List.append_assoc]

theorem resultExtension_endsInContent : EndsInContent (render 0 (snippet resultExtension)) := by
  have hclosing : resultExtension.lines = resultExtension.lines.dropLast ++ ["\x7d".toList] := by decide +kernel
  rw [render_snippet, hclosing]
  exact .unlines (c := '\x7d') (by decide) (by decide) (by decide) (by decide)

theorem code_endsInContent : EndsInContent (render 0 code) := by
  have hbefore : Settles (line "// MARK: - Helper Methods" ++
      separated ([bridgeCallback, streamResultHandler, unaryHandler].map snippet)) :=
    (Settles.line _).append (.separated (snippets_settle _))
  rw [code_eq, (hbefore.append .emptyLine).render_append (.snippet _), hbefore.render_append .emptyLine]
  exact resultExtension_endsInContent.append_left (.concat _)

end Support

namespace Artifact

theorem code_settles (a : Artifact) (s : SwiftService) : Settles (a.code s) := by
  obtain ⟨hbefore, hafter⟩ := a.condition_settles
  exact a.code_eq s ▸ (hbefore.append (.block _ (a.body_settles s))).append hafter

theorem codes_settle (s : SwiftService) : ∀ code ∈ all.map (·.code s), Settles code :=
  List.forall_mem_map.mpr fun a _ => a.code_settles s

end Artifact

/-- The section of a service, made of declarations that are rendered one by one. -/
def SwiftService.sectionText (s : SwiftService) : Text :=
  "// MARK: - " ++ s.name ++ "\n" ++ Text.join "\n" (Artifact.all.map fun a => render 0 (a.code s))

theorem SwiftService.code_settles (s : SwiftService) : Settles s.code :=
  (Settles.line _).append (.separated (Artifact.codes_settle s))

theorem SwiftService.render_code (s : SwiftService) : render 0 s.code = s.sectionText := by
  have hartifacts := Artifact.codes_settle s
  have hmark : '/' ∈ "// MARK: - " ++ s.name := by simp
  rw [code, (Settles.line _).render_append (.separated hartifacts), Settles.render_separated hartifacts,
    render_line_of_mem hmark (by decide), List.map_map]
  rfl

/-- The text of a file, made of parts that are rendered one by one. -/
def fileText (source : Text) (helpers : Bool) (services : List SwiftService) : Text :=
  render 0 (headerCode source) ++ (if helpers then "\n" ++ render 0 Support.code else []) ++
    services.flatMap fun s => ("\n" ++ s.sectionText : Text)

theorem render_fileCode (source : Text) (helpers : Bool) (services : List SwiftService) :
    render 0 (fileCode source helpers services) = fileText source helpers services := by
  have hsupport : Settles (if helpers then [.newline] ++ Support.code else []) := by
    split
    next => exact Settles.emptyLine.append Support.code_settles
    next => exact .nil
  have hhelpers : render 0 (if helpers then [.newline] ++ Support.code else []) =
      if helpers then "\n" ++ render 0 Support.code else [] := by
    split
    next => exact Settles.emptyLine.render_append Support.code_settles 0
    next => rfl
  have hsections : ∀ s ∈ services, Settles ([.newline] ++ s.code) :=
    fun s _ => Settles.emptyLine.append s.code_settles
  have hsection (s : SwiftService) : render 0 ([.newline] ++ s.code) = "\n" ++ s.sectionText := by
    rw [Settles.emptyLine.render_append s.code_settles, s.render_code]
    rfl
  rw [fileCode, ((headerCode_settles source).append hsupport).render_append (.flatMap hsections),
    (headerCode_settles source).render_append hsupport, hhelpers, Settles.render_flatMap hsections]
  simp only [hsection]
  rfl

/-- The pieces of code that the text of a file is made of. -/
def fileParts (source : Text) (services : List SwiftService) : List (List Step) :=
  [headerCode source, Support.code] ++ services.flatMap fun s => Artifact.all.map (·.code s)

theorem fileParts_settle (source : Text) (services : List SwiftService) :
    ∀ part ∈ fileParts source services, Settles part := by
  intro part hpart
  simp only [fileParts, List.cons_append, List.nil_append, List.mem_cons, List.mem_flatMap, List.mem_map] at hpart
  rcases hpart with rfl | rfl | ⟨s, -, a, -, rfl⟩
  · exact headerCode_settles source
  · exact Support.code_settles
  · exact a.code_settles s

theorem headerCode_endsInContent (source : Text) : EndsInContent (render 0 (headerCode source)) :=
  render_headerCode source ▸ importLines_endsInContent.append_left (.concat _)

/-- The private declarations stand between the header and what comes behind it. -/
theorem tidy_fileText (source : Text) (helpers : Bool) (services : List SwiftService) :
    tidy (fileText source helpers services) = tidy (render 0 (headerCode source)) ++
      (if helpers then "\n" ++ tidy (render 0 Support.code) else []) ++
      Text.unlines (tidyLines (services.flatMap fun s => ("\n" ++ s.sectionText : Text))) := by
  have hheader := headerCode_endsInContent source
  cases helpers with
  | false =>
    rw [fileText, if_neg Bool.false_ne_true, if_neg Bool.false_ne_true, List.append_nil, List.append_nil,
      hheader.tidy_append]
  | true =>
    have hline : Text.EndsLine "\n" := .concat []
    have hsupport : EndsInContent ("\n" ++ render 0 Support.code) := Support.code_endsInContent.append_left hline
    have htidy : tidy ("\n" ++ render 0 Support.code) = "\n" ++ tidy (render 0 Support.code) :=
      Support.code_endsInContent.tidy_append_left hline
    rw [fileText, if_pos rfl, if_pos rfl, List.append_assoc, hheader.tidy_append, hsupport.tidyLines_append,
      Text.unlines_append, ← hsupport.tidy_eq_unlines, htidy]
    exact (List.append_assoc _ _ _).symm

/-- The text of a file is put together from parts that are rendered alone, each of which leaves the writer as it was.
The private declarations come in behind the imports, and nothing else changes. -/
theorem swiftSource_eq_tidy_fileText {types : TypeIndex} {file : ProtoFile} {services : List SwiftService}
    (h : file.swiftServices types = .ok services) :
    (∀ helpers, file.swiftSource types helpers = .ok (tidy (fileText file.name helpers services))) ∧
      (∀ part ∈ fileParts file.name services, Settles part) ∧
      Text.unlines importLines <:+ tidy (render 0 (headerCode file.name)) ∧
      ∃ sections,
        file.swiftSource types false = .ok (tidy (render 0 (headerCode file.name)) ++ sections) ∧
        file.swiftSource types true = .ok (tidy (render 0 (headerCode file.name)) ++
          ("\n" ++ tidy (render 0 Support.code)) ++ sections) := by
  have hsource (helpers : Bool) : file.swiftSource types helpers = .ok (tidy (fileText file.name helpers services)) := by
    rw [ProtoFile.swiftSource, h, ← render_fileCode]
    rfl
  have htidy (helpers : Bool) :=
    (hsource helpers).trans (congrArg Except.ok (tidy_fileText file.name helpers services))
  refine ⟨hsource, fileParts_settle file.name services, importLines_isSuffix_tidy file.name, _, ?_, htidy true⟩
  rw [htidy, if_neg Bool.false_ne_true, List.append_nil]

theorem swiftSource_eq_tidy_fileText_unary :
    let types := TypeIndex.empty.insert { package := [], swiftPrefix := none, path := ["T"] }
    let method : Method := {
      name := "Get", input := ".T", output := ".T", clientStreaming := false, serverStreaming := false
      options := ⟨false, some { pattern := some (.get "/v1/a") }⟩ }
    let file : ProtoFile := {
      name := "a.proto", package := [], swiftPrefix := none, services := [{ name := "S", methods := [method] }] }
    ∃ services, file.swiftServices types = .ok services ∧ services.map (·.name) = ["S".toList] ∧
      (∀ helpers, file.swiftSource types helpers = .ok (tidy (fileText "a.proto" helpers services))) ∧
      ∃ header sections, Text.unlines importLines <:+ header ∧
        file.swiftSource types false = .ok (header ++ sections) ∧
        file.swiftSource types true = .ok (header ++ ("\n" ++ tidy (render 0 Support.code)) ++ sections) := by
  intro types method file
  obtain ⟨services, hservices, hnames⟩ :
      ∃ services, file.swiftServices types = .ok services ∧ services.map (·.name) = ["S".toList] := ⟨_, rfl, rfl⟩
  obtain ⟨hsource, -, himports, sections, hoff, hon⟩ := swiftSource_eq_tidy_fileText hservices
  exact ⟨services, hservices, hnames, hsource, _, sections, himports, hoff, hon⟩

end SwiftConnections
