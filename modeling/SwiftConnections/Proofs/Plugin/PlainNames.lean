import SwiftConnections.Proofs.Plugin.OutputNames

namespace SwiftConnections

section CutAfterLast

variable {sep : Char} {a b : Text}

theorem Text.cutAfterLast_append (t : Text) (sep : Char) : (t.cutAfterLast sep).1 ++ (t.cutAfterLast sep).2 = t := by
  rw [cutAfterLast, ← List.reverse_append, List.takeWhile_append_dropWhile, List.reverse_reverse]

theorem Text.separator_not_mem_cutAfterLast (t : Text) (sep : Char) : sep ∉ (t.cutAfterLast sep).2 := by
  intro h
  have hall := List.all_takeWhile (p := (· != sep)) (l := t.reverse)
  rw [List.all_eq_true] at hall
  have hne := hall sep (List.mem_reverse.mp h)
  simp at hne

theorem Text.getLast?_cutAfterLast (t : Text) (sep : Char) :
    (t.cutAfterLast sep).1 = [] ∨ (t.cutAfterLast sep).1.getLast? = some sep := by
  have hhead := List.head?_dropWhile_not (· != sep) t.reverse
  rw [cutAfterLast, List.getLast?_reverse]
  cases h : t.reverse.dropWhile (· != sep) with
  | nil => exact .inl rfl
  | cons c rest =>
    rw [h] at hhead
    exact .inr (by simpa using hhead)

/-- A text is cut in one way only. -/
theorem Text.cutAfterLast_of_append (ha : a = [] ∨ a.getLast? = some sep) (hb : sep ∉ b) :
    cutAfterLast (a ++ b) sep = (a, b) := by
  have hall : ∀ c ∈ b.reverse, (c != sep) = true := by
    intro c hc
    exact bne_iff_ne.mpr fun heq => hb (heq ▸ List.mem_reverse.mp hc)
  have hstop : a.reverse.takeWhile (· != sep) = [] ∧ a.reverse.dropWhile (· != sep) = a.reverse := by
    rcases ha with rfl | ha
    · exact ⟨rfl, rfl⟩
    · obtain ⟨start, rfl⟩ := List.getLast?_eq_some_iff.mp ha
      simp
  rw [cutAfterLast, List.reverse_append, List.takeWhile_append_of_pos hall, List.dropWhile_append_of_pos hall,
    hstop.1, hstop.2, List.append_nil, List.reverse_reverse, List.reverse_reverse]

end CutAfterLast

namespace PathParts

theorem ofPath_eq (path : Text) : ofPath path =
    let file := (path.cutAfterLast '/').2.cutAfterLast '.'
    if file.1.isEmpty then ⟨(path.cutAfterLast '/').1, file.2, []⟩
    else ⟨(path.cutAfterLast '/').1, file.1.dropLast, '.' :: file.2⟩ :=
  rfl

theorem dir_eq (path : Text) : (ofPath path).dir = (path.cutAfterLast '/').1 := by
  rw [ofPath_eq]
  dsimp only
  split <;> rfl

theorem getLast?_dir (path : Text) : (ofPath path).dir = [] ∨ (ofPath path).dir.getLast? = some '/' := by
  rw [dir_eq]
  exact path.getLast?_cutAfterLast '/'

theorem slash_not_mem_base (path : Text) : '/' ∉ (ofPath path).base := by
  have hfile := path.separator_not_mem_cutAfterLast '/'
  rw [← Text.cutAfterLast_append (path.cutAfterLast '/').2 '.', List.mem_append, not_or] at hfile
  rw [ofPath_eq]
  dsimp only
  split
  next => exact hfile.2
  next => exact fun h => hfile.1 (List.mem_of_mem_dropLast h)

theorem dir_append_base_inj {p q : Text} :
    (ofPath p).dir ++ (ofPath p).base = (ofPath q).dir ++ (ofPath q).base ↔
      (ofPath p).dir = (ofPath q).dir ∧ (ofPath p).base = (ofPath q).base := by
  constructor
  · intro h
    have hp := Text.cutAfterLast_of_append (getLast?_dir p) (slash_not_mem_base p)
    rw [h, Text.cutAfterLast_of_append (getLast?_dir q) (slash_not_mem_base q)] at hp
    obtain ⟨hdir, hbase⟩ := Prod.mk.inj hp
    exact ⟨hdir.symm, hbase.symm⟩
  · rintro ⟨hdir, hbase⟩
    rw [hdir, hbase]

end PathParts

theorem outputName_fullPath_inj {component p q : Text} :
    outputName component .fullPath p = outputName component .fullPath q ↔
      (PathParts.ofPath p).dir = (PathParts.ofPath q).dir ∧ (PathParts.ofPath p).base = (PathParts.ofPath q).base := by
  rw [← PathParts.dir_append_base_inj]
  simp only [outputName, FileNaming.directory, List.append_left_inj]

/-- Paths of different plain names are not numbered. -/
theorem NameTable.claimAll_of_nodup {table : NameTable} {paths : List Text} (h : (paths.map table.plain).Nodup)
    (hnew : ∀ path ∈ paths, table.plain path ∉ table.taken) : table.claimAll paths = paths.map table.plain := by
  induction paths generalizing table with
  | nil => rfl
  | cons path paths ih =>
    obtain ⟨hpath, hpaths⟩ := List.nodup_cons.mp h
    obtain ⟨hfree, hothers⟩ := List.forall_mem_cons.mp hnew
    have hclaim : table.claim path = (table.plain path, { table with taken := table.plain path :: table.taken }) := by
      rw [claim, if_neg hfree]
    have hrest : ∀ p ∈ paths, table.plain p ∉ table.plain path :: table.taken := by
      intro p hp hm
      rcases List.mem_cons.mp hm with heq | hm
      · exact hpath (List.mem_map.mpr ⟨p, hp, heq⟩)
      · exact hothers p hp hm
    rw [claimAll, hclaim, List.map_cons]
    exact congrArg (_ :: ·) (ih hpaths hrest)

/-- On a new table no name is numbered exactly if all plain names differ. -/
theorem NameTable.claimAll_eq_map_iff {component : Text} {naming : FileNaming} {paths : List Text} :
    claimAll { component, naming } paths = paths.map (outputName component naming) ↔
      (paths.map (outputName component naming)).Nodup := by
  constructor
  · intro h
    rw [← h]
    exact nodup_claimAll component naming paths
  · exact fun h => claimAll_of_nodup h fun _ _ => List.not_mem_nil

theorem FileNaming.slash_not_mem_directory {naming : FileNaming} (h : naming ≠ fullPath) (dir : Text) :
    '/' ∉ naming.directory dir := by
  cases naming with
  | fullPath => exact absurd rfl h
  | pathToUnderscores =>
    intro hm
    obtain ⟨c, -, hc⟩ := List.mem_map.mp hm
    split at hc
    next => exact absurd hc (by decide)
    next hne => exact hne hc
  | dropPath => exact List.not_mem_nil

theorem slash_mem_outputName_iff {naming : FileNaming} (h : naming ≠ .fullPath) (component path : Text) :
    '/' ∈ outputName component naming path ↔ '/' ∈ component := by
  have hdir := naming.slash_not_mem_directory h (PathParts.ofPath path).dir
  have hbase := PathParts.slash_not_mem_base path
  have hdot : '/' ∉ (".".toList : Text) := by decide
  have hswift : '/' ∉ (".swift".toList : Text) := by decide
  simp only [outputName, List.mem_append, hdir, hbase, hdot, hswift, false_or, or_false]

/-- Where the directory is kept, names agree for paths that differ at most in their suffix, and only then is a name
numbered. Under the other policies all slashes of a name are those of the component. -/
theorem outputName_collides_on_suffix (component : Text) :
    (∀ p q, outputName component .fullPath p = outputName component .fullPath q ↔
      (PathParts.ofPath p).dir = (PathParts.ofPath q).dir ∧ (PathParts.ofPath p).base = (PathParts.ofPath q).base) ∧
    (∀ paths : List Text,
      NameTable.claimAll { component, naming := .fullPath } paths = paths.map (outputName component .fullPath) ↔
        paths.Pairwise fun p q => (PathParts.ofPath p).dir ≠ (PathParts.ofPath q).dir ∨
          (PathParts.ofPath p).base ≠ (PathParts.ofPath q).base) ∧
    ∀ path, ('/' ∈ outputName component .pathToUnderscores path ↔ '/' ∈ component) ∧
      ('/' ∈ outputName component .dropPath path ↔ '/' ∈ component) := by
  refine ⟨fun p q => outputName_fullPath_inj, fun paths => ?_, fun path => ⟨?_, ?_⟩⟩
  · rw [NameTable.claimAll_eq_map_iff, List.Nodup, List.pairwise_map]
    refine List.Pairwise.iff fun p q => ?_
    rw [Ne, outputName_fullPath_inj, not_and_or]
  · exact slash_mem_outputName_iff (by decide) component path
  · exact slash_mem_outputName_iff (by decide) component path

example : NameTable.claimAll { component := "zap", naming := .fullPath } ["a/x.proto", "a/x.1.proto", "b/x.proto", "a/x"] =
    ["a/x.zap.swift", "a/x.1.zap.swift", "b/x.zap.swift", "a/x.2.zap.swift"] := by
  decide

end SwiftConnections
