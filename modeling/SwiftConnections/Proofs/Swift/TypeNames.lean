import Mathlib.Data.List.Forall2
import SwiftConnections.Proofs.Identifiers
import SwiftConnections.Proofs.Proto.TypeLookup
import SwiftConnections.Proofs.Text.Pieces
import SwiftConnections.Swift.Names

namespace SwiftConnections

/-- The parts of a package as type names have them. -/
def camelPackage (package : Text) : List Text :=
  if package = [] then [] else (package.split '.').map upperCamel

theorem camelPackage_eq_nil_iff {package : Text} : camelPackage package = [] ↔ package = [] := by
  rw [camelPackage]
  split
  next h => simp [h]
  next h => simp [h, Text.split_ne_nil]

theorem typePrefix_eq (package : Text) : typePrefix package none = (camelPackage package).flatMap (· ++ ['_']) := by
  rw [typePrefix, camelPackage]
  split
  next => rfl
  next => exact Text.join_append_separator (by simp [Text.split_ne_nil])

theorem not_mem_of_mem_camelPackage {package part : Text} {c : Char} (hc : isWordChar c = false)
    (h : part ∈ camelPackage package) : c ∉ part := by
  rw [camelPackage] at h
  split at h
  next => exact absurd h List.not_mem_nil
  next =>
    obtain ⟨segment, -, rfl⟩ := List.mem_map.mp h
    exact not_mem_upperCamel hc

/-- A suffix tells a message from a reserved name, but not from the message that has the suffix by itself. -/
def AlikeInSwift (name name' : Text) : Prop :=
  name = name' ∨ (name ∈ reservedNames ∧ name' = name ++ "Message") ∨
    (name' ∈ reservedNames ∧ name = name' ++ "Message")

theorem unreserved_of_mem {name : Text} (h : name ∈ reservedNames) : unreserved name = name ++ "Message" := by
  rw [unreserved, if_pos (List.contains_iff_mem.mpr h)]

theorem unreserved_of_not_mem {name : Text} (h : name ∉ reservedNames) : unreserved name = name := by
  rw [unreserved, if_neg (mt List.contains_iff_mem.mp h)]

theorem unreserved_append_message {name : Text} (h : name ∈ reservedNames) :
    unreserved (name ++ "Message") = name ++ "Message" := by
  have hall : ∀ name ∈ reservedNames, unreserved (name ++ "Message") = name ++ "Message" := by decide +kernel
  exact hall name h

theorem unreserved_eq_iff {name name' : Text} : unreserved name = unreserved name' ↔ AlikeInSwift name name' := by
  constructor
  · intro h
    by_cases hr : name ∈ reservedNames <;> by_cases hr' : name' ∈ reservedNames
    · rw [unreserved_of_mem hr, unreserved_of_mem hr'] at h
      exact .inl (List.append_cancel_right h)
    · rw [unreserved_of_mem hr, unreserved_of_not_mem hr'] at h
      exact .inr (.inl ⟨hr, h.symm⟩)
    · rw [unreserved_of_not_mem hr, unreserved_of_mem hr'] at h
      exact .inr (.inr ⟨hr', h⟩)
    · rw [unreserved_of_not_mem hr, unreserved_of_not_mem hr'] at h
      exact .inl h
  · rintro (rfl | ⟨hr, rfl⟩ | ⟨hr, rfl⟩)
    · rfl
    · rw [unreserved_of_mem hr, unreserved_append_message hr]
    · rw [unreserved_of_mem hr, unreserved_append_message hr]

theorem unreserved_eq_iff_of_underscore {name t : Text} (h : '_' ∈ t) : unreserved name = t ↔ name = t := by
  have hreserved : ∀ name ∈ reservedNames, '_' ∉ name ∧ '_' ∉ name ++ "Message" := by decide +kernel
  by_cases hr : name ∈ reservedNames
  · obtain ⟨hname, hsuffixed⟩ := hreserved name hr
    rw [unreserved_of_mem hr]
    exact ⟨fun heq => absurd (heq ▸ h) hsuffixed, fun heq => absurd (heq ▸ h) hname⟩
  · rw [unreserved_of_not_mem hr]

theorem not_mem_unreserved {name : Text} {c : Char} (h : c ∉ name) (hc : c ∉ "Message".toList) : c ∉ unreserved name := by
  rw [unreserved]
  split
  next => exact fun hm => (List.mem_append.mp hm).elim h hc
  next => exact h

namespace MessageRef

def outermost (m : MessageRef) : Text :=
  m.path.headD []

def inner (m : MessageRef) : List Text :=
  m.path.tail

/-- The parts by which the package of the second message is longer stand at the start of the first message's
outermost name, with the second message's outermost name behind them. -/
def TakesOver (m m' : MessageRef) : Prop :=
  ∃ extra, camelPackage m'.package = camelPackage m.package ++ extra ∧
    m.outermost = extra.flatMap (· ++ ['_']) ++ m'.outermost

/-- How two messages come to have one name in Swift. -/
structure SharesSwiftName (m m' : MessageRef) : Prop where
  inner : List.Forall₂ AlikeInSwift m.inner m'.inner
  outermost :
    (m.package = [] ∧ m'.package = [] ∧ AlikeInSwift m.outermost m'.outermost) ∨
      (¬ (m.package = [] ∧ m'.package = []) ∧ (m.TakesOver m' ∨ m'.TakesOver m))

/-- The outermost name as it stands behind the prefix of the package. -/
def placedOutermost (m : MessageRef) : Text :=
  if m.package = [] then unreserved m.outermost else m.outermost

theorem swiftName_eq {m : MessageRef} (hs : m.swiftPrefix = none) (hp : m.path ≠ []) :
    m.swiftName = Text.join ['.']
      (((camelPackage m.package).flatMap (· ++ ['_']) ++ m.placedOutermost) :: m.inner.map unreserved) := by
  have hstart : (camelPackage m.package).flatMap (· ++ ['_']) = [] ↔ m.package = [] := by
    rw [← @camelPackage_eq_nil_iff m.package, List.flatMap_eq_nil_iff, List.eq_nil_iff_forall_not_mem]
    simp
  obtain ⟨package, swiftPrefix, path⟩ := m
  cases hs
  cases path with
  | nil => exact absurd rfl hp
  | cons outermost inner =>
    rw [swiftName, typePrefix_eq, Text.join_append_head]
    simp only [hstart]
    rfl

variable {m m' : MessageRef}

theorem takesOver_iff (h : ¬ (m.package = [] ∧ m'.package = [])) : m.TakesOver m' ↔
    ∃ extra, camelPackage m'.package = camelPackage m.package ++ extra ∧
      m.placedOutermost = extra.flatMap (· ++ ['_']) ++ m'.placedOutermost := by
  refine exists_congr fun extra => and_congr_right fun hextra => ?_
  have hpackage : m'.package ≠ [] := by
    intro hempty
    rw [camelPackage_eq_nil_iff.mpr hempty] at hextra
    exact h ⟨camelPackage_eq_nil_iff.mp (List.append_eq_nil_iff.mp hextra.symm).1, hempty⟩
  rw [placedOutermost, placedOutermost, if_neg hpackage]
  split
  next hempty =>
    -- The package of the second message is not empty, so there is an underscore behind its first part.
    rw [camelPackage_eq_nil_iff.mpr hempty, List.nil_append] at hextra
    have hunderscore : '_' ∈ extra.flatMap (· ++ ['_']) ++ m'.outermost := by
      rw [← hextra]
      obtain ⟨part, parts, hparts⟩ := List.exists_cons_of_ne_nil (mt camelPackage_eq_nil_iff.mp hpackage)
      simp [hparts]
    exact (unreserved_eq_iff_of_underscore hunderscore).symm
  next => rfl

theorem placed_eq_iff : (camelPackage m.package).flatMap (· ++ ['_']) ++ m.placedOutermost =
      (camelPackage m'.package).flatMap (· ++ ['_']) ++ m'.placedOutermost ↔
    (m.package = [] ∧ m'.package = [] ∧ AlikeInSwift m.outermost m'.outermost) ∨
      (¬ (m.package = [] ∧ m'.package = []) ∧ (m.TakesOver m' ∨ m'.TakesOver m)) := by
  by_cases h : m.package = [] ∧ m'.package = []
  · obtain ⟨hm, hm'⟩ := h
    simp [placedOutermost, camelPackage, hm, hm', unreserved_eq_iff]
  · have hparts : ∀ m : MessageRef, ∀ part ∈ camelPackage m.package, '_' ∉ part :=
      fun m part => not_mem_of_mem_camelPackage (by decide)
    have h' : ¬ (m'.package = [] ∧ m.package = []) := fun hempty => h hempty.symm
    rw [Text.flatMap_separator_append_eq_iff (hparts m) (hparts m'), exists_or, takesOver_iff h, takesOver_iff h']
    constructor
    · exact fun hextra => .inr ⟨h, hextra⟩
    · rintro (⟨hm, hm', -⟩ | ⟨-, hextra⟩)
      · exact absurd ⟨hm, hm'⟩ h
      · exact hextra

/-- The message has no prefix of its own, and its names are identifiers. -/
structure IsPlain (m : MessageRef) : Prop where
  swiftPrefix : m.swiftPrefix = none
  path : m.path ≠ []
  names : ∀ name ∈ m.path, isIdentifier name = true

theorem IsPlain.dot_not_mem (h : m.IsPlain) :
    ∀ piece ∈ ((camelPackage m.package).flatMap (· ++ ['_']) ++ m.placedOutermost) :: m.inner.map unreserved,
      '.' ∉ piece := by
  have hname : ∀ name ∈ m.path, '.' ∉ name := by
    intro name hn hm
    rcases isAlphanum_or_underscore_of_mem (h.names name hn) hm with hdot | hdot
    · exact absurd hdot (by decide)
    · exact absurd hdot (by decide)
  have hunreserved : ∀ name ∈ m.path, '.' ∉ unreserved name :=
    fun name hn => not_mem_unreserved (hname name hn) (by decide)
  have hfirst : m.outermost ∈ m.path := by
    obtain ⟨outermost, inner, hpath⟩ := List.exists_cons_of_ne_nil h.path
    simp [MessageRef.outermost, hpath]
  intro piece hpiece
  rcases List.mem_cons.mp hpiece with rfl | hpiece
  · rw [List.mem_append, not_or]
    constructor
    · intro hm
      obtain ⟨part, hpart, hm⟩ := List.mem_flatMap.mp hm
      rcases List.mem_append.mp hm with hm | hm
      · exact not_mem_of_mem_camelPackage (by decide) hpart hm
      · exact absurd hm (by decide)
    · rw [placedOutermost]
      split
      next => exact hunreserved _ hfirst
      next => exact hname _ hfirst
  · obtain ⟨name, hn, rfl⟩ := List.mem_map.mp hpiece
    exact hunreserved name (List.mem_of_mem_tail hn)

theorem swiftName_eq_iff (h : m.IsPlain) (h' : m'.IsPlain) : m.swiftName = m'.swiftName ↔ m.SharesSwiftName m' := by
  have hinner : m.inner.map unreserved = m'.inner.map unreserved ↔ List.Forall₂ AlikeInSwift m.inner m'.inner := by
    rw [← List.forall₂_eq_eq_eq, List.forall₂_map_left_iff, List.forall₂_map_right_iff]
    simp only [unreserved_eq_iff]
  rw [swiftName_eq h.swiftPrefix h.path, swiftName_eq h'.swiftPrefix h'.path,
    Text.join_inj h.dot_not_mem (List.cons_ne_nil _ _) h'.dot_not_mem (List.cons_ne_nil _ _), List.cons_eq_cons,
    placed_eq_iff, hinner]
  exact ⟨fun ⟨houtermost, hinner⟩ => ⟨hinner, houtermost⟩, fun hshares => ⟨hshares.outermost, hshares.inner⟩⟩

end MessageRef

/-- The file sets no prefix, and its messages are named by identifiers. -/
structure FileDecl.IsPlain (decl : FileDecl) : Prop where
  swiftPrefix : decl.options.bind (·.swiftPrefix) = none
  messages : ∀ m ∈ Model.messagesOf [decl], ∀ name ∈ m.path, isIdentifier name = true

theorem FileDecl.IsPlain.of_mem {decls : List FileDecl} (h : ∀ decl ∈ decls, decl.IsPlain) {m : MessageRef}
    (hm : m ∈ Model.messagesOf decls) : m.IsPlain := by
  obtain ⟨decl, hdecl, hm⟩ := List.mem_flatMap.mp hm
  obtain ⟨-, hswift, name, inner, hpath⟩ := of_mem_refsOfAll m hm
  have hown : m ∈ Model.messagesOf [decl] := by simpa [Model.messagesOf] using hm
  exact ⟨hswift.trans (h decl hdecl).swiftPrefix, by simp [hpath], (h decl hdecl).messages m hown⟩

namespace Model

/-- Two messages of files without prefixes for Swift have the same name in Swift exactly if their packages and paths meet in one
of the ways of `MessageRef.SharesSwiftName`. -/
theorem swiftName_eq_iff_shares {decls : List FileDecl} (h : ∀ decl ∈ decls, decl.IsPlain)
    {reference reference' : Text} {m m' : MessageRef} (hm : (typesOf decls).get? reference = some m)
    (hm' : (typesOf decls).get? reference' = some m') (method method' : Text) :
    (typesOf decls).swiftName reference method = (typesOf decls).swiftName reference' method' ↔
      m.SharesSwiftName m' := by
  have hplain := FileDecl.IsPlain.of_mem h (mem_messagesOf_of_get? hm)
  have hplain' := FileDecl.IsPlain.of_mem h (mem_messagesOf_of_get? hm')
  have hname : (typesOf decls).swiftName reference method = .ok m.swiftName := by rw [TypeIndex.swiftName, hm]
  have hname' : (typesOf decls).swiftName reference' method' = .ok m'.swiftName := by rw [TypeIndex.swiftName, hm']
  rw [hname, hname', Except.ok.injEq, MessageRef.swiftName_eq_iff hplain hplain']

theorem swiftName_eq_iff_shares_package_part :
    let decls : List FileDecl := [
      { package := some "a", messages := [{ name := some "B_M" }] },
      { package := some "a.b", messages := [{ name := some "M" }] }]
    (∀ decl ∈ decls, decl.IsPlain) ∧ MessageRef.SharesSwiftName ⟨"a", none, ["B_M"]⟩ ⟨"a.b", none, ["M"]⟩ ∧
      (typesOf decls).swiftName ".a.B_M" "Get" = (typesOf decls).swiftName ".a.b.M" "Get" := by
  intro decls
  have hplain : ∀ decl ∈ decls, decl.IsPlain :=
    List.forall_mem_cons.mpr ⟨⟨rfl, by decide⟩, List.forall_mem_singleton.mpr ⟨rfl, by decide⟩⟩
  have hshares : MessageRef.SharesSwiftName ⟨"a", none, ["B_M"]⟩ ⟨"a.b", none, ["M"]⟩ :=
    ⟨.nil, .inr ⟨by decide, .inl ⟨["B"], by decide +kernel, rfl⟩⟩⟩
  exact ⟨hplain, hshares, (swiftName_eq_iff_shares hplain rfl rfl "Get" "Get").mpr hshares⟩

/-- Messages with different qualified names have different names in Swift if all their names are identifiers. -/
def SeparatesNames (decls : List FileDecl) : Prop :=
  (∀ decl ∈ decls, decl.IsPlain ∧ (decl.package.getD [] = [] ∨
    ∀ segment ∈ (decl.package.getD []).split '.', isIdentifier segment = true)) →
  ∀ (reference reference' : Text) (m m' : MessageRef), (typesOf decls).get? reference = some m →
    (typesOf decls).get? reference' = some m' → m.qualifiedName ≠ m'.qualifiedName → ∀ method : Text,
    (typesOf decls).swiftName reference method ≠ (typesOf decls).swiftName reference' method

/-- Camel case takes underscores and capitals away, an underscore may also stand in a name, and so may the suffix. -/
theorem not_separatesNames :
    ¬ SeparatesNames [
      { package := some "foo_bar", messages := [{ name := some "M" }] },
      { package := some "fooBar", messages := [{ name := some "M" }] }] ∧
    ¬ SeparatesNames [
      { package := some "a", messages := [{ name := some "B_M" }] },
      { package := some "a.b", messages := [{ name := some "M" }] }] ∧
    ¬ SeparatesNames [{ messages := [{ name := some "Error" }, { name := some "ErrorMessage" }] }] := by
  refine ⟨fun h => ?_, fun h => ?_, fun h => ?_⟩
  · have hname : MessageRef.swiftName ⟨"foo_bar", none, ["M"]⟩ = MessageRef.swiftName ⟨"fooBar", none, ["M"]⟩ := by
      decide +kernel
    refine h ?_ ".foo_bar.M" ".fooBar.M" _ _ rfl rfl (by decide) [] (congrArg Except.ok hname)
    exact List.forall_mem_cons.mpr ⟨⟨⟨rfl, by decide⟩, by decide⟩,
      List.forall_mem_singleton.mpr ⟨⟨rfl, by decide⟩, by decide⟩⟩
  · have hname : MessageRef.swiftName ⟨"a", none, ["B_M"]⟩ = MessageRef.swiftName ⟨"a.b", none, ["M"]⟩ := by
      decide +kernel
    refine h ?_ ".a.B_M" ".a.b.M" _ _ rfl rfl (by decide) [] (congrArg Except.ok hname)
    exact List.forall_mem_cons.mpr ⟨⟨⟨rfl, by decide⟩, by decide⟩,
      List.forall_mem_singleton.mpr ⟨⟨rfl, by decide⟩, by decide⟩⟩
  · have hname : MessageRef.swiftName ⟨[], none, ["Error"]⟩ = MessageRef.swiftName ⟨[], none, ["ErrorMessage"]⟩ := by
      decide +kernel
    refine h ?_ ".Error" ".ErrorMessage" _ _ rfl rfl (by decide) [] (congrArg Except.ok hname)
    exact List.forall_mem_singleton.mpr ⟨⟨rfl, by decide⟩, by decide⟩

end Model

end SwiftConnections
