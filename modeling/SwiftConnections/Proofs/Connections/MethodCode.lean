import SwiftConnections.Proofs.Connections.Coverage
import SwiftConnections.Proofs.Swift.Composition

namespace SwiftConnections

/-- The code for a method that is implemented. -/
def Artifact.methodCode (s : SwiftService) : Artifact → SwiftMethod → List Step
  | connection, m => line m.signature
  | streaming, m => m.streamingFunction
  | rpc, m => m.rpcFunctions (s.names.call m.name)
  | rest, m => m.restFunction
  | mock, m => m.mockFunction

namespace SwiftMethod

variable (m : SwiftMethod)

theorem streamingFunction_settles : Settles m.streamingFunction :=
  .block _ (.line _)

theorem rpcFunctions_settles (call : Text) : Settles (m.rpcFunctions call) := by
  unfold rpcFunctions
  split
  next => exact .block _ (.line _)
  next => exact (Settles.block _ (.snippet _)).append (.block _ (.snippet _))
  next => exact .line _
  next => exact .line _

theorem restBody_settles : Settles m.restBody := by
  unfold restBody
  split
  next binding _ =>
    split
    next => exact (Settles.line _).append (.line _)
    next => exact .line _
  next => exact .line _

theorem codeOr_settles {code : List Step} (h : Settles code) : Settles (m.codeOr code) := by
  unfold codeOr
  split
  next => exact h
  next => exact .line _

theorem mockFunction_settles : Settles m.mockFunction :=
  .block _ (.line _)

theorem function_isPrefix_signature : ("    func " ++ m.function ++ "(" : Text) <+: "    " ++ m.signature := by
  have hstart : ("    func " : Text) = "    " ++ "func " := rfl
  have hbracket : ("(_ request: " : Text) = "(" ++ "_ request: " := rfl
  unfold signature
  rw [hstart, hbracket]
  simp only [List.append_assoc, List.prefix_append_right_inj]
  exact List.prefix_append _ _

theorem signature_isPrefix (t : Text) : ("    " ++ m.signature : Text) <+: render 1 (line (m.signature ++ t)) := by
  have hmem : 'f' ∈ m.signature ++ t := List.mem_append_left t (List.mem_of_mem_head? rfl)
  rw [render_line_of_mem hmem (by decide)]
  exact ⟨t ++ ['\n'], by simp⟩

theorem signature_isInfix_block {code : List Step} (h : Settles code) :
    ("    " ++ m.signature : Text) <:+: render 1 (block m.signature code) :=
  (m.signature_isPrefix _).isInfix.trans (render_opening_isInfix h 1 _)

theorem signature_isInfix_rpcFunctions (hs : m.isSupported = true) (call : Text) :
    ("    " ++ m.signature : Text) <:+: render 1 (m.rpcFunctions call) := by
  unfold isSupported at hs
  unfold rpcFunctions
  cases hshape : m.shape with
  | unary => exact m.signature_isInfix_block (.line _)
  | serverStreaming =>
    have hopen : Settles m.openStream := .snippet _
    have hreceive : Settles m.receiveFromStream := .snippet _
    exact (m.signature_isInfix_block hopen).trans ((hopen.block _).render_isInfix_left (hreceive.block _) 1)
  | clientStreaming | bidirectionalStreaming => rw [hshape] at hs; cases hs

theorem signature_isInfix_methodCode (a : Artifact) (s : SwiftService) (hs : m.isSupported = true) :
    ("    " ++ m.signature : Text) <:+: render 1 (a.methodCode s m) := by
  cases a with
  | connection =>
    have hline := (m.signature_isPrefix []).isInfix
    rw [List.append_nil] at hline
    exact hline
  | streaming | mock => exact m.signature_isInfix_block (.line _)
  | rpc => exact m.signature_isInfix_rpcFunctions hs _
  | rest => exact m.signature_isInfix_block m.restBody_settles

theorem mockProperty_isPrefix : ("    private let " ++ m.function ++ ": " : Text) <+: render 1 m.mockProperty := by
  have hmem : ':' ∈ "private let " ++ m.function ++ ": " ++ m.output ++ "?" := by simp
  rw [mockProperty, render_line_of_mem hmem (by decide)]
  exact ⟨m.output ++ "?\n", by simp⟩

theorem mockParameter_isPrefix (separator : Text) :
    ("        " ++ m.function ++ ": " : Text) <+: render 2 (m.mockParameter separator) := by
  have hmem : ':' ∈ m.function ++ ": " ++ m.output ++ "? = nil" ++ separator := by simp
  rw [mockParameter, render_line_of_mem hmem (by decide)]
  exact ⟨m.output ++ "? = nil" ++ separator ++ "\n", by simp⟩

end SwiftMethod

namespace SwiftService

variable (s : SwiftService)

theorem functions_settles {code : SwiftMethod → List Step} (h : ∀ m, Settles (code m)) :
    Settles (s.functions code) :=
  .flatMap fun m _ => Settles.emptyLine.append (h m)

theorem render_infix_functions {code : SwiftMethod → List Step} (h : ∀ m, Settles (code m)) {m : SwiftMethod}
    (hm : m ∈ s.methods) (level : Nat) : render level (code m) <:+: render level (s.functions code) := by
  have hspaced : ∀ m, Settles ([.newline] ++ code m) := fun m => Settles.emptyLine.append (h m)
  exact (Settles.emptyLine.render_isInfix_right (h m) level).trans
    (Settles.render_isInfix_flatMap (fun m _ => hspaced m) hm level)

/-- The initializer of a mock after an empty line. -/
def mockInit : List Step :=
  [.newline] ++ line "init(" ++ [.nested (SwiftMethod.mockParameters s.methods)] ++
    (line ") \x7b" ++ [.nested (s.supported.flatMap (·.mockAssignment))] ++ line "\x7d")

/-- What stands in a mock before its functions. -/
def mockMembers : List Step :=
  s.methods.flatMap (fun m => m.codeOr m.mockProperty) ++ s.mockInit

theorem mockCode_eq : s.mockCode = block (s.conforming "class" s.names.mock)
    (s.mockMembers ++ s.functions fun m => m.codeOr m.mockFunction) := by
  simp only [mockCode, mockMembers, mockInit, supported, List.append_assoc]

theorem codeOr_mockProperty_settles (m : SwiftMethod) : Settles (m.codeOr m.mockProperty) :=
  m.codeOr_settles (.line _)

theorem mockProperties_settles : Settles (s.methods.flatMap fun m => m.codeOr m.mockProperty) :=
  .flatMap fun m _ => codeOr_mockProperty_settles m

theorem mockParameterAt_settles (last : Option Nat) (m : SwiftMethod) (i : Nat) :
    Settles (m.mockParameterAt last i) :=
  m.codeOr_settles (.line _)

theorem mockParameters_settles : Settles (SwiftMethod.mockParameters s.methods) :=
  .flatMap fun p _ => mockParameterAt_settles _ p.1 p.2

theorem mockAssignments_settles : Settles (s.supported.flatMap (·.mockAssignment)) :=
  .flatMap fun _ _ => .line _

theorem mockInit_start_settles : Settles ([.newline] ++ line "init(") :=
  Settles.emptyLine.append (.line _)

theorem mockInit_rest_settles :
    Settles (line ") \x7b" ++ [.nested (s.supported.flatMap (·.mockAssignment))] ++ line "\x7d") :=
  ((Settles.line _).append s.mockAssignments_settles.body).append (.line _)

theorem mockInit_settles : Settles s.mockInit :=
  (mockInit_start_settles.append s.mockParameters_settles.body).append s.mockInit_rest_settles

theorem mockMembers_settles : Settles s.mockMembers :=
  s.mockProperties_settles.append s.mockInit_settles

theorem mockProperty_isInfix {m : SwiftMethod} (hm : m ∈ s.supported) :
    render 1 m.mockProperty <:+: render 1 s.mockMembers := by
  obtain ⟨hmem, hs⟩ := List.mem_filter.mp hm
  have hown := Settles.render_isInfix_flatMap (fun m _ => codeOr_mockProperty_settles m) hmem 1
  rw [SwiftMethod.codeOr, if_pos hs] at hown
  exact hown.trans (s.mockProperties_settles.render_isInfix_left s.mockInit_settles 1)

theorem mockParameter_isInfix {m : SwiftMethod} (hm : m ∈ s.supported) :
    ∃ separator, render 2 (m.mockParameter separator) <:+: render 1 s.mockMembers := by
  obtain ⟨hmem, hs⟩ := List.mem_filter.mp hm
  obtain ⟨i, hi⟩ := List.mem_iff_getElem?.mp hmem
  have hown := Settles.render_isInfix_flatMap
    (fun p _ => mockParameterAt_settles (SwiftMethod.lastSupported? s.methods) p.1 p.2)
    (List.mk_mem_zipIdx_iff_getElem?.mpr hi) 2
  have hinit := mockInit_start_settles.render_isInfix s.mockParameters_settles.body s.mockInit_rest_settles 1
  rw [s.mockParameters_settles.render_body] at hinit
  rw [SwiftMethod.mockParameterAt, SwiftMethod.codeOr, if_pos hs] at hown
  exact ⟨_, (hown.trans hinit).trans (s.mockProperties_settles.render_isInfix_right s.mockInit_settles 1)⟩

end SwiftService

namespace Artifact

variable (a : Artifact) (s : SwiftService)

/-- The name of the declared type. -/
def typeName (names : ServiceNames) : Artifact → Text
  | connection => names.connection
  | streaming => names.streaming
  | rpc => names.rpc
  | rest => names.rest
  | mock => names.mock

/-- What stands before the name of the declared type. -/
def keyword : Artifact → Text
  | connection => "protocol"
  | streaming | mock => "class"
  | rpc | rest => "final class"

/-- What stands behind the name of the declared type. -/
def conformance (names : ServiceNames) : Artifact → Text
  | connection => []
  | streaming | rpc | rest | mock => ": " ++ names.connection

/-- The line that opens a declaration, without the brace at its end. -/
def opening (names : ServiceNames) (a : Artifact) : Text :=
  a.keyword ++ " " ++ a.typeName names ++ a.conformance names

/-- What stands in a declaration before the code for its methods. -/
def members : Artifact → List Step
  | connection | streaming => []
  | rpc => line ("let service: " ++ s.names.clientProtocol) ++ [.newline] ++
      block "public init(configuration: RPCCredentials)"
        (line ("service = " ++ s.names.client ++ "(configuration: configuration)"))
  | rest => line "private let lndRest: LNDRest" ++ [.newline] ++
      block "init(lndRest: LNDRest)" (line "self.lndRest = lndRest")
  | mock => s.mockMembers

/-- The code for the methods of a declaration. -/
def methodsCode : Artifact → List Step
  | connection => s.methods.flatMap fun m => m.codeOr (line m.signature)
  | streaming => s.methods.flatMap fun m => m.codeOr m.streamingFunction
  | rpc => s.functions fun m => m.rpcFunctions (s.names.call m.name)
  | rest => s.functions fun m => m.codeOr m.restFunction
  | mock => s.functions fun m => m.codeOr m.mockFunction

/-- The lines around a declaration that is not in every build. -/
def condition : Artifact → List Step × List Step
  | streaming => (line "#if !REMOTEONLY", line "#endif")
  | connection | rpc | rest | mock => ([], [])

theorem opening_connection : connection.opening s.names = "protocol " ++ s.names.connection :=
  List.append_nil _

theorem opening_eq_conforming (h : a ≠ connection) :
    a.opening s.names = s.conforming a.keyword (a.typeName s.names) := by
  unfold SwiftService.conforming opening
  rw [List.append_assoc _ ": ".toList]
  cases a with
  | connection => exact absurd rfl h
  | streaming | rpc | rest | mock => rfl

theorem code_eq : a.code s =
    a.condition.1 ++ block (a.opening s.names) (a.members s ++ a.methodsCode s) ++ a.condition.2 := by
  cases a with
  | connection =>
    rw [opening_connection]
    exact (List.append_nil _).symm
  | streaming =>
    rw [opening_eq_conforming _ _ (by decide)]
    rfl
  | rpc | rest =>
    rw [opening_eq_conforming _ _ (by decide)]
    exact (List.append_nil _).symm
  | mock =>
    rw [opening_eq_conforming _ _ (by decide)]
    exact s.mockCode_eq.trans (List.append_nil _).symm

theorem members_settles : Settles (a.members s) := by
  cases a with
  | connection | streaming => exact .nil
  | rpc | rest => exact ((Settles.line _).append .emptyLine).append (.block _ (.line _))
  | mock => exact s.mockMembers_settles

theorem methodCode_settles (m : SwiftMethod) : Settles (a.methodCode s m) := by
  cases a with
  | connection => exact .line _
  | streaming => exact m.streamingFunction_settles
  | rpc => exact m.rpcFunctions_settles _
  | rest => exact .block _ m.restBody_settles
  | mock => exact m.mockFunction_settles

theorem codeOr_methodCode_settles (m : SwiftMethod) : Settles (m.codeOr (a.methodCode s m)) :=
  m.codeOr_settles (a.methodCode_settles s m)

theorem methodCode_eq_rpcFunctions (m : SwiftMethod) : m.codeOr (rpc.methodCode s m) = rpc.methodCode s m :=
  (m.rpcFunctions_eq_codeOr _).symm

theorem methodsCode_settles : Settles (a.methodsCode s) := by
  cases a with
  | connection => exact .flatMap fun m _ => connection.codeOr_methodCode_settles s m
  | streaming => exact .flatMap fun m _ => streaming.codeOr_methodCode_settles s m
  | rpc => exact s.functions_settles (rpc.methodCode_settles s)
  | rest => exact s.functions_settles (rest.codeOr_methodCode_settles s)
  | mock => exact s.functions_settles (mock.codeOr_methodCode_settles s)

theorem methodCode_isInfix_methodsCode {m : SwiftMethod} (hm : m ∈ s.supported) :
    render 1 (a.methodCode s m) <:+: render 1 (a.methodsCode s) := by
  obtain ⟨hmem, hs⟩ := List.mem_filter.mp hm
  have h := a.codeOr_methodCode_settles s
  have hcode : m.codeOr (a.methodCode s m) = a.methodCode s m := if_pos hs
  rw [← hcode]
  cases a with
  | connection | streaming => exact Settles.render_isInfix_flatMap (fun m _ => h m) hmem 1
  | rpc =>
    rw [methodCode_eq_rpcFunctions]
    exact s.render_infix_functions (rpc.methodCode_settles s) hmem 1
  | rest | mock => exact s.render_infix_functions h hmem 1

theorem body_settles : Settles (a.members s ++ a.methodsCode s) :=
  (a.members_settles s).append (a.methodsCode_settles s)

theorem condition_settles : Settles a.condition.1 ∧ Settles a.condition.2 := by
  cases a with
  | streaming => exact ⟨.line _, .line _⟩
  | connection | rpc | rest | mock => exact ⟨.nil, .nil⟩

theorem block_isInfix : render 0 (block (a.opening s.names) (a.members s ++ a.methodsCode s)) <:+:
    render 0 (a.code s) := by
  rw [code_eq]
  exact a.condition_settles.1.render_isInfix (.block _ (a.body_settles s)) a.condition_settles.2 0

theorem opening_isInfix : (a.opening s.names ++ " \x7b\n" : Text) <:+: render 0 (a.code s) := by
  have hopening := render_opening_isInfix (a.body_settles s) 0 (a.opening s.names)
  rw [render_line_of_mem (List.mem_append_right _ (by decide : '\x7b' ∈ " \x7b".toList)) (by decide)] at hopening
  have h := hopening.trans (a.block_isInfix s)
  simpa using h

theorem methodCode_isInfix {m : SwiftMethod} (hm : m ∈ s.supported) :
    render 1 (a.methodCode s m) <:+: render 0 (a.code s) := by
  have hbody := (a.members_settles s).render_isInfix_right (a.methodsCode_settles s) 1
  exact (((a.methodCode_isInfix_methodsCode s hm).trans hbody).trans
    (render_infix_block (a.body_settles s) 0 _)).trans (a.block_isInfix s)

theorem signature_isInfix {m : SwiftMethod} (hm : m ∈ s.supported) :
    ("    " ++ m.signature : Text) <:+: render 0 (a.code s) :=
  (m.signature_isInfix_methodCode a s (List.mem_filter.mp hm).2).trans (a.methodCode_isInfix s hm)

theorem mockMembers_isInfix : render 1 s.mockMembers <:+: render 0 (mock.code s) :=
  (s.mockMembers_settles.render_isInfix_left (mock.methodsCode_settles s) 1).trans
    ((render_infix_block (mock.body_settles s) 0 _).trans (mock.block_isInfix s))

theorem mockProperty_isInfix {m : SwiftMethod} (hm : m ∈ s.supported) :
    ("    private let " ++ m.function ++ ": " : Text) <:+: render 0 (mock.code s) :=
  (m.mockProperty_isPrefix.isInfix.trans (s.mockProperty_isInfix hm)).trans (mockMembers_isInfix s)

theorem mockParameter_isInfix {m : SwiftMethod} (hm : m ∈ s.supported) :
    ("        " ++ m.function ++ ": " : Text) <:+: render 0 (mock.code s) := by
  obtain ⟨separator, hparameter⟩ := s.mockParameter_isInfix hm
  exact ((m.mockParameter_isPrefix separator).isInfix.trans hparameter).trans (mockMembers_isInfix s)

end Artifact

end SwiftConnections
