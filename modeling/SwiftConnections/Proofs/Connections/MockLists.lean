import SwiftConnections.Proofs.Connections.MethodCode
import SwiftConnections.Proofs.Connections.PassLines

namespace SwiftConnections

/-- The texts with a comma behind all but the last one. -/
def listed (ts : List Text) : List Text :=
  ts.dropLast.map (fun t : Text => t ++ ",") ++ ts.getLast?.toList

theorem map_withMore_comma {α : Type} (f : α → Text) (items : List α) :
    ((withMore items).map fun p => f p.1 ++ if p.2 then "," else []) = listed (items.map f) := by
  induction items with
  | nil => rfl
  | cons a rest ih =>
    rw [withMore, List.map_cons, ih]
    cases rest with
    | nil => exact congrArg ([·]) (List.append_nil (f a))
    | cons b rest => rfl

theorem getLast?_of_mem_dropLast_listed {ts : List Text} {t : Text} (h : t ∈ (listed ts).dropLast) :
    t.getLast? = some ',' := by
  cases hts : ts.getLast? with
  | none =>
    rw [List.getLast?_eq_none_iff.mp hts] at h
    cases h
  | some last =>
    rw [listed, hts, Option.toList_some, List.dropLast_concat] at h
    obtain ⟨u, -, rfl⟩ := List.mem_map.mp h
    exact List.getLast?_concat

theorem getLast?_listed (ts : List Text) : (listed ts).getLast? = ts.getLast? := by
  cases hts : ts.getLast? with
  | none =>
    rw [List.getLast?_eq_none_iff.mp hts]
    rfl
  | some last =>
    rw [listed, hts, Option.toList_some]
    exact List.getLast?_concat

namespace SwiftMethod

variable (m : SwiftMethod)

def propertyLine : Text :=
  "    private let " ++ m.function ++ ": " ++ m.output ++ "?"

/-- The line of a parameter, without a comma. -/
def parameterLine : Text :=
  "        " ++ m.function ++ ": " ++ m.output ++ "? = nil"

def assignmentLine : Text :=
  "        self." ++ m.function ++ " = " ++ m.function

/-- The function of a mock after an empty line. -/
def mockFunctionLines : List Text :=
  [[], m.functionLine .mock,
    "        completion(Result(value: " ++ m.function ++ ", error: LndApiError.unknownError))", "    \x7d"]

end SwiftMethod

/-- The lists of a mock hold what belongs to the methods that are implemented, in the order of the methods. -/
structure MockLists (s : SwiftService) (properties parameters assignments functions : List Text) : Prop where
  properties : Merges (s.supported.map fun m => [m.propertyLine]) (s.skipped.map fun m => [m.markLine]) properties
  parameters : Merges ((listed (s.supported.map (·.parameterLine))).map ([·]))
    (s.skipped.map fun m => ["    " ++ m.markLine]) parameters
  assignments : assignments = s.supported.map (·.assignmentLine)
  functions : Merges (s.supported.map (·.mockFunctionLines)) (s.skipped.map fun m => [[], m.markLine]) functions

namespace SwiftService

/-- The lines of a mock, which are around its lists. -/
def mockLines (s : SwiftService) (properties parameters assignments functions : List Text) : List Text :=
  List.flatten [[s.conforming "class" s.names.mock ++ " \x7b"], properties, [[], "    init("], parameters,
    ["    ) \x7b"], assignments, ["    \x7d"], functions, ["\x7d"]]

variable {s : SwiftService}

theorem writesLines_mockProperties (h : s.IsUnbroken) :
    ∃ lines, WritesLines 1 (s.methods.flatMap fun m => m.codeOr m.mockProperty) lines ∧
      Merges (s.supported.map fun m => [m.propertyLine]) (s.skipped.map fun m => [m.markLine]) lines := by
  refine pass_merges false h.methods fun m hm => ?_
  obtain ⟨-, hfunction, -, houtput, -⟩ := h.methods m hm
  exact .line (c := 'p') (List.mem_of_mem_head? rfl) (by decide) (by simp [hfunction, houtput])

theorem writesLines_mockParameters (h : s.IsUnbroken) :
    ∃ lines, WritesLines 2 (SwiftMethod.mockParameters s.methods) lines ∧
      Merges ((listed (s.supported.map (·.parameterLine))).map ([·]))
        (s.skipped.map fun m => ["    " ++ m.markLine]) lines := by
  have hparameter : ∀ m ∈ s.methods, ∀ more : Bool, WritesLines 2 (m.mockParameter (if more then "," else []))
      [m.parameterLine ++ (if more then "," else [] : Text)] := by
    intro m hm more
    obtain ⟨-, hfunction, -, houtput, -⟩ := h.methods m hm
    have hmem (separator : Text) : ':' ∈ m.function ++ ": " ++ m.output ++ "? = nil" ++ separator := by simp
    have htext (separator : Text) : m.parameterLine ++ separator =
        "        " ++ (m.function ++ ": " ++ m.output ++ "? = nil" ++ separator) := by
      unfold SwiftMethod.parameterLine
      simp only [List.append_assoc]
    rw [htext]
    refine .line (hmem _) (by decide) ?_
    cases more <;> simp [hfunction, houtput]
  obtain ⟨lines, hlines, hmerges⟩ := passCode_merges false h.methods hparameter
  rw [← SwiftMethod.mockParameters_eq] at hlines
  refine ⟨lines, hlines, ?_⟩
  rw [← map_withMore_comma, List.map_map]
  exact hmerges

theorem writesLines_mockAssignments (h : s.IsUnbroken) :
    WritesLines 2 (s.supported.flatMap (·.mockAssignment)) (s.supported.map (·.assignmentLine)) := by
  rw [List.map_eq_flatMap]
  refine .flatMap fun m hm => ?_
  have hfunction := (h.methods m (List.mem_filter.mp hm).1).function
  exact .line (c := 's') (List.mem_of_mem_head? rfl) (by decide) (by simp [hfunction])

theorem writesLines_mockFunctions (h : s.IsUnbroken) :
    ∃ lines, WritesLines 1 (s.functions fun m => m.codeOr m.mockFunction) lines ∧
      Merges (s.supported.map (·.mockFunctionLines)) (s.skipped.map fun m => [[], m.markLine]) lines := by
  have hfunction : ∀ m ∈ s.methods, WritesLines 1 m.mockFunction m.mockFunctionLines.tail := by
    intro m hm
    have hfeed : '\n' ∉ "completion(Result(value: " ++ m.function ++ ", error: LndApiError.unknownError))" := by
      simp [(h.methods m hm).function]
    have hsignature := (h.methods m hm).signature
    exact .block hsignature (.line (c := 'c') (List.mem_of_mem_head? rfl) (by decide) hfeed)
  exact pass_merges true h.methods hfunction

theorem writesLines_mockCode (h : s.IsUnbroken) : ∃ properties parameters assignments functions,
    WritesLines 0 s.mockCode (s.mockLines properties parameters assignments functions) ∧
      MockLists s properties parameters assignments functions := by
  obtain ⟨properties, hproperties, hpropertyLines⟩ := writesLines_mockProperties h
  obtain ⟨parameters, hparameters, hparameterLines⟩ := writesLines_mockParameters h
  obtain ⟨functions, hfunctions, hfunctionLines⟩ := writesLines_mockFunctions h
  have hassignments := writesLines_mockAssignments h
  have hopening : WritesLines 1 (line "init(") ["    init("] := .line (c := 'i') (by decide) (by decide) (by decide)
  have hmiddle : WritesLines 1 (line ") \x7b") ["    ) \x7b"] := .line (c := ')') (by decide) (by decide) (by decide)
  have hclosing : WritesLines 1 (line "\x7d") ["    \x7d"] := .line (c := '\x7d') (by decide) (by decide) (by decide)
  have hinit := ((((WritesLines.emptyLine.append hopening).append hparameters.body).append hmiddle).append
    hassignments.body).append hclosing
  have hheader : '\n' ∉ s.conforming "class" s.names.mock := by
    unfold conforming
    simp [h.connection, h.mock]
  have hinitCode : s.mockInit = [.newline] ++ line "init(" ++ [.nested (SwiftMethod.mockParameters s.methods)] ++
      line ") \x7b" ++ [.nested (s.supported.flatMap (·.mockAssignment))] ++ line "\x7d" := by
    simp only [mockInit, List.append_assoc]
  rw [← hinitCode] at hinit
  have hcode := ((hproperties.append hinit).append hfunctions).block hheader
  refine ⟨properties, parameters, _, functions, ?_, hpropertyLines, hparameterLines, rfl, hfunctionLines⟩
  rw [mockCode_eq, mockMembers, mockLines]
  simpa only [List.flatten_cons, List.flatten_nil, List.append_assoc, List.cons_append, List.nil_append,
    List.append_nil, List.replicate_zero] using hcode

end SwiftService

/-- In a mock each of the lists is that of the methods that are implemented, and marks. Of the parameters every one but
the last has a comma behind it. -/
theorem mock_lists_agree {s : SwiftService} (h : s.IsUnbroken) :
    ∃ properties parameters assignments functions,
      (render 0 (Artifact.mock.code s)).split '\n' =
        s.mockLines properties parameters assignments functions ++ [[]] ∧
      MockLists s properties parameters assignments functions ∧
      (∀ t ∈ (listed (s.supported.map (·.parameterLine))).dropLast, t.getLast? = some ',') ∧
      ∀ t ∈ (listed (s.supported.map (·.parameterLine))).getLast?, t.getLast? ≠ some ',' := by
  obtain ⟨properties, parameters, assignments, functions, hcode, hlists⟩ := SwiftService.writesLines_mockCode h
  refine ⟨properties, parameters, assignments, functions, hcode.split_render, hlists,
    fun t ht => getLast?_of_mem_dropLast_listed ht, fun t ht => ?_⟩
  rw [getLast?_listed, List.getLast?_map] at ht
  obtain ⟨m, -, rfl⟩ := Option.map_eq_some_iff.mp ht
  have hend : m.parameterLine.getLast? = some 'l' := by
    unfold SwiftMethod.parameterLine
    rw [List.getLast?_append]
    rfl
  rw [hend]
  decide

theorem mock_lists_agree_skipped_ends :
    let info : SwiftMethod := {
      name := "GetInfo", function := "getInfo", input := "In", output := "Out", shape := .unary
      bridge := "LndmobileGetInfo", binding := .error .noVersionedPath }
    let upload : SwiftMethod := { info with function := "upload", shape := .clientStreaming }
    let watch : SwiftMethod := { info with function := "watch", shape := .serverStreaming }
    let chat : SwiftMethod := { info with function := "chat", shape := .bidirectionalStreaming }
    let s : SwiftService := {
      name := "S", methods := [upload, info, watch, chat]
      names := ⟨"SConnection", "StreamingSConnection", "RPCSConnection", "RestSConnection", "MockSConnection", "S"⟩ }
    s.IsUnbroken ∧ s.supported = [info, watch] ∧ s.skipped = [upload, chat] ∧
      listed (s.supported.map (·.parameterLine)) =
        (["        getInfo: Out? = nil,", "        watch: Out? = nil"] : List Text) ∧
      ∃ properties parameters assignments functions,
        (render 0 (Artifact.mock.code s)).split '\n' =
          s.mockLines properties parameters assignments functions ++ [[]] ∧
        MockLists s properties parameters assignments functions := by
  intro info upload watch chat s
  have hinfo : info.IsUnbroken := ⟨by decide, by decide, by decide, by decide, by decide, by simp [info]⟩
  have hupload : upload.IsUnbroken := { hinfo with function := by decide }
  have hwatch : watch.IsUnbroken := { hinfo with function := by decide }
  have hchat : chat.IsUnbroken := { hinfo with function := by decide }
  have hs : s.IsUnbroken := {
    connection := by decide, streaming := by decide, rpc := by decide, rest := by decide, mock := by decide
    qualified := by decide
    methods := by simp [s, hinfo, hupload, hwatch, hchat] }
  obtain ⟨properties, parameters, assignments, functions, hlines, hlists, -⟩ := mock_lists_agree hs
  exact ⟨hs, rfl, rfl, by decide, properties, parameters, assignments, functions, hlines, hlists⟩

end SwiftConnections
