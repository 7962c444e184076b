import SwiftConnections.Proofs.Connections.MethodLines
import SwiftConnections.Proofs.Swift.Composition

namespace SwiftConnections

/-- The second text is the first one with the pieces inserted in order. -/
inductive Inserted : List Text → Text → Text → Prop
  | nil (t : Text) : Inserted [] t t
  | cons {pieces u v} (t piece : Text) : Inserted pieces u v → Inserted (piece :: pieces) (t ++ u) (t ++ piece ++ v)

namespace Inserted

variable {pieces pieces' : List Text} {u u' v v' : Text}

theorem prepend (t : Text) (h : Inserted pieces u v) : Inserted pieces (t ++ u) (t ++ v) := by
  induction h with
  | nil u => exact .nil (t ++ u)
  | cons t' piece h _ =>
    have hcons := Inserted.cons (t ++ t') piece h
    simpa only [List.append_assoc] using hcons

theorem append (h : Inserted pieces u v) (h' : Inserted pieces' u' v') :
    Inserted (pieces ++ pieces') (u ++ u') (v ++ v') := by
  induction h with
  | nil t => exact h'.prepend t
  | cons t piece _ ih =>
    have hcons := Inserted.cons t piece ih
    simpa only [List.append_assoc, List.cons_append] using hcons

theorem flatMap {α : Type} {items : List α} {pieces : α → List Text} {u v : α → Text}
    (h : ∀ a ∈ items, Inserted (pieces a) (u a) (v a)) :
    Inserted (items.flatMap pieces) (items.flatMap u) (items.flatMap v) := by
  induction items with
  | nil => exact .nil []
  | cons a items ih =>
    exact (h a List.mem_cons_self).append (ih fun b hb => h b (List.mem_cons_of_mem a hb))

end Inserted

/-- A stretch of a declaration. -/
inductive Part
  /-- Code in which the methods that are not implemented have no share. -/
  | fixed (level : Nat) (code : List Step)
  /-- Code for each method, which may depend on whether a method that is implemented comes later. -/
  | pass (level : Nat) (spaced : Bool) (code : SwiftMethod → Bool → List Step)

namespace Part

/-- What a pass writes for a method that is not implemented. -/
def mark (level : Nat) (spaced : Bool) (m : SwiftMethod) : Text :=
  (if spaced then "\n".toList else []) ++ ((List.replicate level "    ".toList).flatten ++ m.skipMark ++ "\n")

def share (level : Nat) (spaced : Bool) (code : List Step) (m : SwiftMethod) : Text :=
  if m.isSupported then (if spaced then "\n".toList else []) ++ render level code else mark level spaced m

def shares (level : Nat) (spaced : Bool) (code : SwiftMethod → Bool → List Step) : List SwiftMethod → Text
  | [] => []
  | m :: rest => share level spaced (code m (rest.any (·.isSupported))) m ++ shares level spaced code rest

theorem shares_cons (level : Nat) (spaced : Bool) (code : SwiftMethod → Bool → List Step) (m : SwiftMethod)
    (rest : List SwiftMethod) : shares level spaced code (m :: rest) =
      share level spaced (code m (rest.any (·.isSupported))) m ++ shares level spaced code rest :=
  rfl

def text (methods : List SwiftMethod) : Part → Text
  | fixed level code => render level code
  | pass level spaced code => shares level spaced code methods

def marks (m : SwiftMethod) : Part → List Text
  | fixed _ _ => []
  | pass level spaced _ => [mark level spaced m]

theorem inserted_marks {m : SwiftMethod} (before after : List SwiftMethod) (hm : m.isSupported = false)
    (part : Part) : Inserted (part.marks m) (part.text (before ++ after)) (part.text (before ++ m :: after)) := by
  cases part with
  | fixed level code => exact .nil _
  | pass level spaced code =>
    simp only [text, marks]
    induction before with
    | nil =>
      have hshare : share level spaced (code m (after.any (·.isSupported))) m = mark level spaced m := by
        rw [share, hm]
        rfl
      have hcons := Inserted.cons [] (mark level spaced m) (.nil (shares level spaced code after))
      rw [List.nil_append, List.nil_append, shares_cons, hshare]
      exact hcons
    | cons x before ih =>
      -- A method that is not implemented does not count as a later one.
      have hlater : (before ++ m :: after).any (·.isSupported) = (before ++ after).any (·.isSupported) := by
        simp [hm]
      rw [List.cons_append, List.cons_append, shares_cons, shares_cons, hlater]
      exact ih.prepend _

end Part

namespace SwiftService

def supported (s : SwiftService) : List SwiftMethod :=
  s.methods.filter (·.isSupported)

def skipped (s : SwiftService) : List SwiftMethod :=
  s.methods.filter (!·.isSupported)

end SwiftService

/-- The stretches of a declaration, given the names for the service and the methods that are implemented. -/
def Artifact.parts (names : ServiceNames) (supported : List SwiftMethod) : Artifact → List Part
  | connection => [
    .fixed 0 (line ("protocol " ++ names.connection ++ " \x7b")),
    .pass 1 false fun m _ => line m.signature,
    .fixed 0 (line "\x7d")]
  | streaming => [
    .fixed 0 (line "#if !REMOTEONLY"),
    .fixed 0 (line ("class " ++ names.streaming ++ ": " ++ names.connection ++ " \x7b")),
    .pass 1 false fun m _ => m.streamingFunction,
    .fixed 0 (line "\x7d"),
    .fixed 0 (line "#endif")]
  | rpc => [
    .fixed 0 (line ("final class " ++ names.rpc ++ ": " ++ names.connection ++ " \x7b")),
    .fixed 1 (line ("let service: " ++ names.clientProtocol) ++ [.newline] ++
      block "public init(configuration: RPCCredentials)"
        (line ("service = " ++ names.client ++ "(configuration: configuration)"))),
    .pass 1 true fun m _ => m.rpcFunctions (names.call m.name),
    .fixed 0 (line "\x7d")]
  | rest => [
    .fixed 0 (line ("final class " ++ names.rest ++ ": " ++ names.connection ++ " \x7b")),
    .fixed 1 (line "private let lndRest: LNDRest" ++ [.newline] ++
      block "init(lndRest: LNDRest)" (line "self.lndRest = lndRest")),
    .pass 1 true fun m _ => m.restFunction,
    .fixed 0 (line "\x7d")]
  | mock => [
    .fixed 0 (line ("class " ++ names.mock ++ ": " ++ names.connection ++ " \x7b")),
    .pass 1 false fun m _ => m.mockProperty,
    .fixed 1 [.newline],
    .fixed 1 (line "init("),
    .pass 2 false fun m more => m.mockParameter (if more then "," else []),
    .fixed 1 (line ") \x7b"),
    .fixed 2 (supported.flatMap (·.mockAssignment)),
    .fixed 1 (line "\x7d"),
    .pass 1 true fun m _ => m.mockFunction,
    .fixed 0 (line "\x7d")]

/-- The text of the code is that of the parts, and its lines for methods are these. -/
structure Outlined (methods : List SwiftMethod) (level : Nat) (code : List Step) (parts : List Part)
    (found : List Text) : Prop where
  exposes : Exposes level code found
  text : render level code = parts.flatMap (·.text methods)

namespace Outlined

variable {methods : List SwiftMethod} {level : Nat} {code code' : List Step} {parts parts' : List Part}
  {found found' : List Text}

theorem fixed (h : Exposes level code found) : Outlined methods level code [.fixed level code] found :=
  ⟨h, (List.append_nil _).symm⟩

theorem append (h : Outlined methods level code parts found) (h' : Outlined methods level code' parts' found') :
    Outlined methods level (code ++ code') (parts ++ parts') (found ++ found') := by
  obtain ⟨lines, hl, -⟩ := h.exposes
  obtain ⟨lines', hl', -⟩ := h'.exposes
  refine ⟨h.exposes.append h'.exposes, ?_⟩
  rw [hl.settles.render_append hl'.settles, h.text, h'.text, List.flatMap_append]

theorem body (h : Outlined methods (level + 1) code parts found) :
    Outlined methods level [.nested code] parts found := by
  obtain ⟨lines, hl, -⟩ := h.exposes
  exact ⟨h.exposes.body, (hl.settles.render_body level).trans h.text⟩

theorem block {header : Text} (hh : '\n' ∉ header)
    (hf : [CodeLine.placed "    " 0 ⟨0, header ++ " \x7b"⟩].filter isMethodLine = [])
    (h : Outlined methods 1 code parts found) :
    Outlined methods 0 (SwiftConnections.block header code)
      (.fixed 0 (line (header ++ " \x7b")) :: parts ++ [.fixed 0 (line "\x7d")]) found := by
  have hheader : '\n' ∉ header ++ " \x7b" := by simp [hh]
  have hopening : Exposes 0 (line (header ++ " \x7b")) [] := .line hheader hf
  have hclosing : Exposes 0 (line "\x7d") [] := .line (by decide) rfl
  have hblock := ((fixed hopening).append h.body).append (fixed hclosing)
  rwa [List.append_nil, List.nil_append] at hblock

end Outlined

def gap : (spaced : Bool) → List Step
  | true => [.newline]
  | false => []

def passCode (spaced : Bool) (code : SwiftMethod → Bool → List Step) : List SwiftMethod → List Step
  | [] => []
  | m :: rest =>
    gap spaced ++ m.codeOr (code m (rest.any (·.isSupported))) ++ passCode spaced code rest

theorem passCode_eq (spaced : Bool) (code : SwiftMethod → List Step) (methods : List SwiftMethod) :
    passCode spaced (fun m _ => code m) methods =
      methods.flatMap fun m => gap spaced ++ m.codeOr (code m) := by
  induction methods with
  | nil => rfl
  | cons m rest ih => rw [passCode, ih, List.flatMap_cons]

theorem SwiftMethod.render_skipMark (m : SwiftMethod) (level : Nat) (h : m.IsUnbroken) :
    render level (line m.skipMark) = (List.replicate level "    ".toList).flatten ++ m.skipMark ++ ['\n'] := by
  rw [(Layout.singleLine h.skipMark).render_eq]
  exact List.append_nil _

section Pass

variable {level : Nat} {spaced : Bool} {code : SwiftMethod → Bool → List Step} {methods : List SwiftMethod}
  {found : SwiftMethod → List Text}

theorem exposes_gap (level : Nat) (spaced : Bool) : Exposes level (gap spaced) [] := by
  cases spaced with
  | false => exact ⟨[], .nil, rfl⟩
  | true => exact .emptyLine

theorem exposes_passCode (h : ∀ m ∈ methods, ∀ more, Exposes level (m.codeOr (code m more)) (found m)) :
    Exposes level (passCode spaced code methods) (methods.flatMap found) := by
  induction methods with
  | nil => exact ⟨[], .nil, rfl⟩
  | cons m rest ih =>
    have hrest := ih fun m' hm' => h m' (List.mem_cons_of_mem m hm')
    have hcode := h m List.mem_cons_self (rest.any (·.isSupported))
    exact ((exposes_gap level spaced).append hcode).append hrest

theorem render_share {code : List Step} {m : SwiftMethod} {found : List Text} (hm : m.IsUnbroken)
    (h : Exposes level (m.codeOr code) found) :
    render level (gap spaced ++ m.codeOr code) = Part.share level spaced code m := by
  obtain ⟨_, hgap, -⟩ := exposes_gap level spaced
  obtain ⟨_, hl, -⟩ := h
  have hgapText : render level (gap spaced) = if spaced then "\n".toList else [] := by
    cases spaced <;> rfl
  rw [hgap.settles.render_append hl.settles, hgapText, Part.share]
  unfold SwiftMethod.codeOr
  cases m.isSupported with
  | true => rfl
  | false => exact congrArg (_ ++ ·) (m.render_skipMark level hm)

theorem render_passCode (hm : ∀ m ∈ methods, m.IsUnbroken)
    (h : ∀ m ∈ methods, ∀ more, Exposes level (m.codeOr (code m more)) (found m)) :
    render level (passCode spaced code methods) = Part.shares level spaced code methods := by
  induction methods with
  | nil => rfl
  | cons m rest ih =>
    have hrest : ∀ m' ∈ rest, ∀ more, Exposes level (m'.codeOr (code m' more)) (found m') :=
      fun m' hm' => h m' (List.mem_cons_of_mem m hm')
    have hcode := h m List.mem_cons_self (rest.any (·.isSupported))
    obtain ⟨lines, hl, -⟩ := (exposes_gap level spaced).append hcode
    have hcodes : Exposes level (passCode spaced code rest) (rest.flatMap found) := exposes_passCode hrest
    obtain ⟨lines', hl', -⟩ := hcodes
    rw [passCode, hl.settles.render_append hl'.settles, render_share (hm m List.mem_cons_self) hcode,
      ih (fun m' hm' => hm m' (List.mem_cons_of_mem m hm')) hrest, Part.shares_cons]

theorem Outlined.pass (hm : ∀ m ∈ methods, m.IsUnbroken)
    (h : ∀ m ∈ methods, ∀ more, Exposes level (m.codeOr (code m more)) (found m)) :
    Outlined methods level (passCode spaced code methods) [.pass level spaced code] (methods.flatMap found) := by
  refine ⟨exposes_passCode h, ?_⟩
  rw [render_passCode hm h]
  exact (List.append_nil _).symm

end Pass

end SwiftConnections
