import SwiftConnections.Connections.Artifact
import SwiftConnections.Proofs.Swift.Layout
import SwiftConnections.Proofs.Text.Pieces

namespace SwiftConnections

def PathSegment.text : PathSegment → Text
  | literal t => t
  | field name => name

theorem PathTemplate.lineFeed_not_mem_swiftLiteral {path : PathTemplate}
    (h : ∀ segment ∈ path.segments, '\n' ∉ segment.text) : '\n' ∉ path.swiftLiteral := by
  apply Text.not_mem_join (by decide)
  intro t ht
  obtain ⟨segment, hs, rfl⟩ := List.mem_map.mp ht
  have hsegment := h segment hs
  cases segment with
  | literal t => exact hsegment
  | field name => simpa [PathSegment.text] using hsegment

theorem Verb.lineFeed_not_mem_swift (verb : Verb) : '\n' ∉ verb.swift := by
  cases verb <;> decide

/-- No text of the method that is written holds a line feed. -/
structure SwiftMethod.IsUnbroken (m : SwiftMethod) : Prop where
  name : '\n' ∉ m.name
  function : '\n' ∉ m.function
  input : '\n' ∉ m.input
  output : '\n' ∉ m.output
  bridge : '\n' ∉ m.bridge
  path : ∀ binding, m.binding = .ok binding → ∀ segment ∈ binding.path.segments, '\n' ∉ segment.text

structure SwiftService.IsUnbroken (s : SwiftService) : Prop where
  connection : '\n' ∉ s.names.connection
  streaming : '\n' ∉ s.names.streaming
  rpc : '\n' ∉ s.names.rpc
  rest : '\n' ∉ s.names.rest
  mock : '\n' ∉ s.names.mock
  qualified : '\n' ∉ s.names.qualified
  methods : ∀ m ∈ s.methods, m.IsUnbroken

/-- A line that declares a function directly in a type. -/
def isFunctionLine (t : Text) : Bool :=
  "    func ".toList.isPrefixOf t

def isMarkLine (t : Text) : Bool :=
  "    // skipped: ".toList.isPrefixOf t

def isMethodLine (t : Text) : Bool :=
  isFunctionLine t || isMarkLine t

theorem filter_isFunctionLine (ts : List Text) :
    (ts.filter isMethodLine).filter isFunctionLine = ts.filter isFunctionLine := by
  rw [List.filter_filter]
  refine List.filter_congr fun t _ => ?_
  cases hf : isFunctionLine t <;> simp [isMethodLine, hf]

theorem not_blank_of_isMethodLine {t : Text} (h : isMethodLine t = true) :
    (t.any fun c => !Text.isBlank c) = true := by
  rcases Bool.or_eq_true_iff.mp h with h | h
  · have hm : 'f' ∈ t := (List.isPrefixOf_iff_prefix.mp h).subset (by decide)
    exact List.any_eq_true.mpr ⟨'f', hm, by decide⟩
  · have hm : '/' ∈ t := (List.isPrefixOf_iff_prefix.mp h).subset (by decide)
    exact List.any_eq_true.mpr ⟨'/', hm, by decide⟩

/-- No line that stands two levels deep is one of those. -/
theorem isMethodLine_placed_deep (level : Nat) (l : CodeLine) :
    isMethodLine (l.placed "    " (level + 2)) = false := by
  have hlevel : level + 2 + l.depth = level + l.depth + 1 + 1 := by omega
  rw [CodeLine.placed]
  split
  next =>
    -- The fifth character is a blank of the second level.
    rw [hlevel, List.replicate_succ, List.replicate_succ]
    rfl
  next hb => exact Bool.eq_false_iff.mpr fun h => hb (not_blank_of_isMethodLine h)

/-- At a level the code writes whole lines, of which those that stand for methods are these. -/
def Exposes (level : Nat) (code : List Step) (found : List Text) : Prop :=
  ∃ lines, Layout code lines ∧ (lines.map (·.placed "    " level)).filter isMethodLine = found

namespace Exposes

variable {level : Nat} {code code' : List Step} {found found' : List Text}

theorem append (h : Exposes level code found) (h' : Exposes level code' found') :
    Exposes level (code ++ code') (found ++ found') := by
  obtain ⟨lines, hl, rfl⟩ := h
  obtain ⟨lines', hl', rfl⟩ := h'
  exact ⟨lines ++ lines', hl.append hl', by rw [List.map_append, List.filter_append]⟩

theorem body (h : Exposes (level + 1) code found) : Exposes level [.nested code] found := by
  obtain ⟨lines, hl, rfl⟩ := h
  refine ⟨_, hl.body, ?_⟩
  rw [List.map_map]
  simp only [Function.comp_def, CodeLine.placed_deeper]

theorem line {t : Text} (ht : '\n' ∉ t) (hf : [CodeLine.placed "    " level ⟨0, t⟩].filter isMethodLine = found) :
    Exposes level (SwiftConnections.line t) found :=
  ⟨_, .singleLine ht, hf⟩

theorem emptyLine : Exposes level [.newline] [] :=
  ⟨_, .emptyLine, rfl⟩

theorem deep {lines : List CodeLine} (h : Layout code lines) : Exposes (level + 2) code [] := by
  refine ⟨lines, h, ?_⟩
  rw [List.filter_eq_nil_iff]
  intro t ht
  obtain ⟨l, -, rfl⟩ := List.mem_map.mp ht
  rw [isMethodLine_placed_deep]
  exact Bool.false_ne_true

theorem member {header : Text} {lines : List CodeLine} (hh : '\n' ∉ header) (h : Layout code lines)
    (hf : [CodeLine.placed "    " 1 ⟨0, header ++ " \x7b"⟩].filter isMethodLine = found) :
    Exposes 1 (block header code) found := by
  have hopening : '\n' ∉ header ++ " \x7b" := by simp [hh]
  have hbody : Exposes 1 [.nested code] [] := (deep h).body
  have hclosing : Exposes 1 (SwiftConnections.line "\x7d") [] := line (by decide) rfl
  have hblock := ((line hopening hf).append hbody).append hclosing
  rwa [List.append_nil, List.append_nil] at hblock

theorem filter_split (h : Exposes level code found) :
    ((render level code).split '\n').filter isMethodLine = found := by
  obtain ⟨lines, hl, rfl⟩ := h
  rw [hl.split_render, List.filter_append]
  exact List.append_nil _

end Exposes

namespace SwiftMethod

/-- How a method that is implemented begins in a declaration. -/
def functionLine (a : Artifact) (m : SwiftMethod) : Text :=
  let opening : Text := if a = .connection then [] else " \x7b"
  "    " ++ m.signature ++ opening

def markLine (m : SwiftMethod) : Text :=
  "    " ++ m.skipMark

def methodLine (a : Artifact) (m : SwiftMethod) : Text :=
  if m.isSupported then m.functionLine a else m.markLine

variable {m : SwiftMethod}

theorem IsUnbroken.signature (h : m.IsUnbroken) : '\n' ∉ m.signature := by
  unfold SwiftMethod.signature
  simp [h.function, h.input, h.output]

theorem IsUnbroken.skipMark (h : m.IsUnbroken) : '\n' ∉ m.skipMark := by
  unfold SwiftMethod.skipMark
  simp [h.function]

theorem isFunctionLine_functionLine (a : Artifact) (m : SwiftMethod) : isFunctionLine (m.functionLine a) = true :=
  rfl

theorem isFunctionLine_markLine (m : SwiftMethod) : isFunctionLine m.markLine = false :=
  rfl

theorem isFunctionLine_methodLine (a : Artifact) (m : SwiftMethod) :
    isFunctionLine (m.methodLine a) = m.isSupported := by
  unfold methodLine
  cases hs : m.isSupported with
  | true => exact m.isFunctionLine_functionLine a
  | false => exact m.isFunctionLine_markLine

theorem exposes_mark (h : m.IsUnbroken) : Exposes 1 (line m.skipMark) [m.markLine] :=
  .line h.skipMark rfl

theorem exposes_requirement (h : m.IsUnbroken) : Exposes 1 (line m.signature) [m.functionLine .connection] := by
  have hline : m.functionLine .connection = "    ".toList ++ m.signature := List.append_nil _
  rw [hline]
  exact .line h.signature rfl

theorem exposes_function {body : List Step} {lines : List CodeLine} (h : m.IsUnbroken) (hb : Layout body lines) :
    Exposes 1 (block m.signature body) ["    ".toList ++ m.signature ++ " \x7b".toList] :=
  .member h.signature hb rfl

theorem exposes_streamingFunction (h : m.IsUnbroken) :
    Exposes 1 m.streamingFunction [m.functionLine .streaming] :=
  exposes_function h (.singleLine (by simp [h.bridge]))

theorem exposes_rpcFunctions {call : Text} (h : m.IsUnbroken) (hc : '\n' ∉ call) (hs : m.isSupported = true) :
    Exposes 1 (m.rpcFunctions call) [m.functionLine .rpc] := by
  unfold rpcFunctions
  cases hshape : m.shape with
  | unary => exact exposes_function h (.singleLine (by simp [h.function]))
  | serverStreaming =>
    have hopen := exposes_function h (.snippet _ : Layout m.openStream _)
    have hreceive : Exposes 1 (block ("private func " ++ m.receiver ++ "(call: " ++ call ++
        ", completion: @escaping ApiCompletion<" ++ m.output ++ ">) throws") m.receiveFromStream) [] := by
      refine .member ?_ (.snippet _) rfl
      unfold receiver
      simp [h.name, hc, h.output]
    exact hopen.append hreceive
  | clientStreaming => simp [isSupported, hshape, StreamingShape.isSupported] at hs
  | bidirectionalStreaming => simp [isSupported, hshape, StreamingShape.isSupported] at hs

theorem restCall_layout {binding : HttpBinding} {body : Text} (hb : '\n' ∉ body)
    (hp : ∀ segment ∈ binding.path.segments, '\n' ∉ segment.text) :
    ∃ t, Layout (restCall binding body) [⟨0, t⟩] := by
  have hpath := PathTemplate.lineFeed_not_mem_swiftLiteral hp
  have hverb := binding.verb.lineFeed_not_mem_swift
  exact ⟨_, .singleLine (by simp [hpath, hverb, hb])⟩

theorem restBody_layout (h : m.IsUnbroken) : ∃ lines, Layout m.restBody lines := by
  unfold restBody
  cases hb : m.binding with
  | error e => exact ⟨_, .singleLine (by simp [h.name])⟩
  | ok binding =>
    by_cases hbody : binding.hasBody = true
    · obtain ⟨t, ht⟩ := restCall_layout (by decide : '\n' ∉ ("json" : Text)) (h.path binding hb)
      simp only [hbody, if_true]
      exact ⟨_, (Layout.singleLine (by decide)).append ht⟩
    · obtain ⟨t, ht⟩ := restCall_layout (by decide : '\n' ∉ ("nil" : Text)) (h.path binding hb)
      simp only [hbody]
      exact ⟨_, ht⟩

theorem exposes_restFunction (h : m.IsUnbroken) : Exposes 1 m.restFunction [m.functionLine .rest] := by
  obtain ⟨lines, hbody⟩ := restBody_layout h
  exact exposes_function h hbody

theorem exposes_mockFunction (h : m.IsUnbroken) : Exposes 1 m.mockFunction [m.functionLine .mock] :=
  exposes_function h (.singleLine (by simp [h.function]))

theorem exposes_mockProperty (h : m.IsUnbroken) : Exposes 1 m.mockProperty [] :=
  .line (by simp [h.function, h.output]) rfl

theorem exposes_mockParameter {separator : Text} (h : m.IsUnbroken) (hs : '\n' ∉ separator) :
    Exposes 2 (m.mockParameter separator) [] :=
  .deep (.singleLine (by simp [h.function, h.output, hs]))

theorem mockAssignment_layout (h : m.IsUnbroken) :
    Layout m.mockAssignment [⟨0, "self.".toList ++ m.function ++ " = ".toList ++ m.function⟩] :=
  .singleLine (by simp [h.function])

end SwiftMethod

end SwiftConnections
