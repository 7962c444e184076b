import Mathlib.Data.Finset.Card
import SwiftConnections.Proofs.Proto.TypeOrder

namespace SwiftConnections

section Keys

variable {α : Type}

theorem Dictionary.nodup_keys (d : Dictionary α) : (d.entries.map (·.1)).Nodup := by
  rw [List.Nodup, List.pairwise_map]
  refine d.ascending.imp fun {a b} hab heq => ?_
  rw [heq, Text.precedes_irrefl] at hab
  cases hab

theorem Dictionary.get?_eq_none_iff {d : Dictionary α} {key : Text} :
    d.get? key = none ↔ key ∉ d.entries.map (·.1) := by
  rw [get?, List.lookup_eq_none_iff, List.mem_map]
  constructor
  · rintro h ⟨e, he, rfl⟩
    have hne := h e he
    simp at hne
  · intro h e he
    exact bne_iff_ne.mpr fun heq => h ⟨e, he, heq.symm⟩

end Keys

mutual

/-- The nesting paths of all messages of a declaration, nested messages before the one around them. -/
def MessageDecl.paths : MessageDecl → List (List Text)
  | ⟨name, nested⟩ => (MessageDecl.pathsOfAll nested).map (name.getD [] :: ·) ++ [[name.getD []]]

def MessageDecl.pathsOfAll : List MessageDecl → List (List Text)
  | [] => []
  | decl :: decls => decl.paths ++ MessageDecl.pathsOfAll decls

end

/-- The messages inside `outer` are those of the declarations by themselves, with `outer` in front of their paths. -/
theorem MessageDecl.refsOfAll_eq (package : Text) (swiftPrefix : Option Text) (outer : List Text)
    (decls : List MessageDecl) :
    refsOfAll package swiftPrefix outer decls =
      (pathsOfAll decls).map fun path => ⟨package, swiftPrefix, outer ++ path⟩ := by
  refine (refs.mutual_induct
    (fun outer decl => decl.refs package swiftPrefix outer =
      decl.paths.map fun path => ⟨package, swiftPrefix, outer ++ path⟩)
    (fun outer decls => refsOfAll package swiftPrefix outer decls =
      (pathsOfAll decls).map fun path => ⟨package, swiftPrefix, outer ++ path⟩) ?_ ?_ ?_).2 outer decls
  · intro outer name nested path ih
    rw [refs, ih, paths]
    simp [path]
  · intro outer
    rfl
  · intro outer decl decls ih ihs
    rw [refsOfAll, ih, ihs, pathsOfAll, List.map_append]

/-- The messages of one file, as they are added to an index. -/
structure FileTypes where
  package : Text
  swiftPrefix : Option Text
  messages : List MessageDecl

def FileTypes.refs (file : FileTypes) : List MessageRef :=
  (MessageDecl.pathsOfAll file.messages).map fun path => ⟨file.package, file.swiftPrefix, path⟩

namespace TypeIndex

variable {index : TypeIndex} {name : Text}

def ofFiles (files : List FileTypes) : TypeIndex :=
  files.foldl (fun index file => index.insertFile file.package file.swiftPrefix file.messages) .empty

/-- The messages of all files in the order in which they are added. -/
def history (files : List FileTypes) : List MessageRef :=
  files.flatMap (·.refs)

theorem ofFiles_eq (files : List FileTypes) : ofFiles files = (history files).foldl insert .empty := by
  have hfile : ∀ (index : TypeIndex) (file : FileTypes),
      index.insertFile file.package file.swiftPrefix file.messages = file.refs.foldl insert index := by
    intro index file
    rw [insertFile, MessageDecl.refsOfAll_eq]
    rfl
  rw [history, List.foldl_flatMap, ofFiles]
  simp only [hfile]

def IsKeyed (index : TypeIndex) : Prop :=
  ∀ e ∈ index.messages.entries, e.1 = e.2.qualifiedName

theorem IsKeyed.insert (h : index.IsKeyed) (m : MessageRef) : (index.insert m).IsKeyed := by
  intro e he
  rcases mem_of_mem_insertEntry he with rfl | he
  · rfl
  · exact h e he

theorem IsKeyed.insertAll (h : index.IsKeyed) (refs : List MessageRef) : (refs.foldl TypeIndex.insert index).IsKeyed := by
  induction refs generalizing index with
  | nil => exact h
  | cons m refs ih => exact ih (h.insert m)

theorem get?_ofFiles (files : List FileTypes) (name : Text) :
    (ofFiles files).get? ('.' :: name) = (history files).reverse.find? (·.qualifiedName = name) := by
  rw [ofFiles_eq, get?_insertAll_empty]

theorem get?_ofFiles_eq_none_iff {files : List FileTypes} :
    (ofFiles files).get? ('.' :: name) = none ↔ ∀ m ∈ history files, m.qualifiedName ≠ name := by
  rw [get?_ofFiles, List.find?_eq_none]
  simp only [List.mem_reverse, decide_eq_true_eq, Ne]

theorem get?_ofFiles_eq_some_iff {files : List FileTypes} {m : MessageRef} :
    (ofFiles files).get? ('.' :: name) = some m ↔
      m.qualifiedName = name ∧ ∃ before after, history files = before ++ m :: after ∧
        ∀ later ∈ after, later.qualifiedName ≠ name := by
  rw [get?_ofFiles, List.find?_eq_some_iff_append, decide_eq_true_eq]
  refine and_congr_right fun _ => ?_
  constructor
  · rintro ⟨after, before, hhistory, hafter⟩
    refine ⟨before.reverse, after.reverse, ?_, fun later hlater => ?_⟩
    · rw [← List.reverse_inj, hhistory]
      simp
    · simpa using hafter later (List.mem_reverse.mp hlater)
  · rintro ⟨before, after, hhistory, hafter⟩
    refine ⟨after.reverse, before.reverse, ?_, fun later hlater => ?_⟩
    · rw [hhistory]
      simp
    · simpa using hafter later (List.mem_reverse.mp hlater)

theorem mem_keys_ofFiles_iff {files : List FileTypes} :
    name ∈ (ofFiles files).messages.entries.map (·.1) ↔ name ∈ (history files).map (·.qualifiedName) := by
  have hnone : (ofFiles files).messages.get? name = none ↔ ∀ m ∈ history files, m.qualifiedName ≠ name :=
    get?_ofFiles_eq_none_iff
  rw [Dictionary.get?_eq_none_iff] at hnone
  rw [← not_iff_not, hnone, List.mem_map, not_exists]
  simp only [not_and]

theorem size_ofFiles (files : List FileTypes) :
    (ofFiles files).size = ((history files).map (·.qualifiedName)).toFinset.card := by
  have hkeys : ((ofFiles files).messages.entries.map (·.1)).toFinset =
      ((history files).map (·.qualifiedName)).toFinset := by
    ext name
    rw [List.mem_toFinset, List.mem_toFinset, mem_keys_ofFiles_iff]
  rw [← hkeys, List.toFinset_card_of_nodup (Dictionary.nodup_keys _), List.length_map]
  rfl

/-- After any files have been added, a name finds the message of that name that came last, and each name that a
message had is a key once: the package and the path with dots between them. -/
theorem ofFiles_holds_last (files : List FileTypes) :
    (∀ name m, (ofFiles files).get? ('.' :: name) = some m ↔
      m.qualifiedName = name ∧ ∃ before after, history files = before ++ m :: after ∧
        ∀ later ∈ after, later.qualifiedName ≠ name) ∧
    (∀ name, (ofFiles files).get? ('.' :: name) = none ↔ ∀ m ∈ history files, m.qualifiedName ≠ name) ∧
    (ofFiles files).size = ((history files).map (·.qualifiedName)).toFinset.card ∧
    ∀ e ∈ (ofFiles files).messages.entries,
      e.1 = if e.2.package = [] then Text.join "." e.2.path else e.2.package ++ "." ++ Text.join "." e.2.path := by
  refine ⟨fun name m => get?_ofFiles_eq_some_iff, fun name => get?_ofFiles_eq_none_iff, size_ofFiles files, ?_⟩
  -- The name of a message is by definition its package and path with dots between them.
  have hempty : TypeIndex.empty.IsKeyed := fun _ he => absurd he List.not_mem_nil
  have hkeyed := hempty.insertAll (history files)
  rw [← ofFiles_eq] at hkeyed
  exact hkeyed

/-- A message of one package has the name of a nested message of another package. -/
theorem ofFiles_holds_last_nested :
    let files : List FileTypes := [
      { package := "a", swiftPrefix := none, messages := [{ name := some "A", nested := [{ name := some "B" }] }] },
      { package := "a.A", swiftPrefix := some "X", messages := [{ name := some "B" }] }]
    let outer : MessageRef := ⟨"a", none, ["A"]⟩
    let last : MessageRef := ⟨"a.A", some "X", ["B"]⟩
    history files = [⟨"a", none, ["A", "B"]⟩, outer, last] ∧
      (ofFiles files).get? ".a.A.B" = some last ∧ (ofFiles files).get? ".a.B" = none ∧ (ofFiles files).size = 2 ∧
      (("a.A" : Text), outer) ∈ (ofFiles files).messages.entries ∧ ("a.A" : Text) = "a" ++ "." ++ Text.join "." ["A"] := by
  intro files outer last
  have hhistory : history files = [⟨"a", none, ["A", "B"]⟩, outer, last] := by decide
  have houter : (("a.A" : Text), outer) ∈ (ofFiles files).messages.entries := by decide
  obtain ⟨hsome, hnone, hsize, hkeys⟩ := ofFiles_holds_last files
  refine ⟨hhistory, ?_, (hnone "a.B").mpr (by decide), hsize.trans (by decide), houter, hkeys _ houter⟩
  exact (hsome "a.A.B" last).mpr ⟨by decide, [_, outer], [], hhistory, by simp⟩

end TypeIndex

end SwiftConnections
