import SwiftConnections.Proofs.Plugin.PlainNames

namespace SwiftConnections

namespace PathParts

variable {parts : PathParts} {path : Text}

/-- The parts make up the path, and its last slash, if any, ends the directory. -/
structure Covers (parts : PathParts) (path : Text) : Prop where
  whole : parts.dir ++ parts.base ++ parts.suffix = path
  dir : parts.dir = [] ∨ parts.dir.getLast? = some '/'
  base : '/' ∉ parts.base
  suffix : '/' ∉ parts.suffix

/-- The suffix is what stands from the last dot of the file's name on, and empty if there is no dot. -/
structure Splits (parts : PathParts) (path : Text) : Prop extends Covers parts path where
  dotted : parts.suffix = [] ∨ ∃ rest, parts.suffix = '.' :: rest ∧ '.' ∉ rest
  undotted : parts.suffix = [] → '.' ∉ parts.base

/-- A path is split in one way only. -/
theorem Splits.ofPath_eq (h : parts.Splits path) : ofPath path = parts := by
  have hfile : '/' ∉ parts.base ++ parts.suffix := List.not_mem_append h.base h.suffix
  have hdir : path.cutAfterLast '/' = (parts.dir, parts.base ++ parts.suffix) := by
    rw [← h.whole, List.append_assoc]
    exact Text.cutAfterLast_of_append h.dir hfile
  rw [PathParts.ofPath_eq, hdir]
  rcases h.dotted with hnone | ⟨rest, hsome, hrest⟩
  · have hcut : parts.base.cutAfterLast '.' = ([], parts.base) :=
      Text.cutAfterLast_of_append (.inl rfl) (h.undotted hnone)
    obtain ⟨dir, base, suffix⟩ := parts
    cases hnone
    simp [hcut]
  · have hcut : (parts.base ++ ['.'] ++ rest).cutAfterLast '.' = (parts.base ++ ['.'], rest) :=
      Text.cutAfterLast_of_append (.inr List.getLast?_concat) hrest
    obtain ⟨dir, base, suffix⟩ := parts
    cases hsome
    simp only [List.append_assoc, List.singleton_append] at hcut
    simp [hcut]

/-- The parts after one more character. Text counts as suffix until a later dot or slash shows what else it is. -/
def push (parts : PathParts) (c : Char) : PathParts :=
  if c = '/' then ⟨parts.dir ++ parts.base ++ parts.suffix ++ [c], [], []⟩
  else if c = '.' then ⟨parts.dir, parts.base ++ parts.suffix, [c]⟩
  else ⟨parts.dir, parts.base, parts.suffix ++ [c]⟩

/-- The parts at the end of the path, where a suffix without a dot turns out to be all of the base. -/
def settle (parts : PathParts) : PathParts :=
  if parts.suffix.head? = some '.' then parts else ⟨parts.dir, parts.base ++ parts.suffix, []⟩

def scan (path : Text) : PathParts :=
  (path.foldl push ⟨[], [], []⟩).settle

/-- What holds of the parts while a path is read: the suffix is that of the segment so far, or the segment has
no dot yet and is all in the suffix. -/
structure Gathers (parts : PathParts) (path : Text) : Prop extends Covers parts path where
  dotted : (parts.base = [] ∧ '.' ∉ parts.suffix) ∨ ∃ rest, parts.suffix = '.' :: rest ∧ '.' ∉ rest

theorem Gathers.push (h : parts.Gathers path) (c : Char) : (parts.push c).Gathers (path ++ [c]) := by
  have hwhole := h.whole
  rw [PathParts.push]
  split
  next hslash =>
    refine ⟨⟨?_, .inr ?_, List.not_mem_nil, List.not_mem_nil⟩, .inl ⟨rfl, List.not_mem_nil⟩⟩
    · simp [← hwhole]
    · rw [hslash]
      exact List.getLast?_concat
  next hslash =>
    split
    next hdot =>
      refine ⟨⟨?_, h.dir, List.not_mem_append h.base h.suffix, ?_⟩, .inr ⟨[], by rw [hdot], List.not_mem_nil⟩⟩
      · simp [← hwhole]
      · exact fun hm => hslash (List.mem_singleton.mp hm).symm
    next hdot =>
      refine ⟨⟨?_, h.dir, h.base, ?_⟩, ?_⟩
      · simp [← hwhole]
      · exact List.not_mem_append h.suffix fun hm => hslash (List.mem_singleton.mp hm).symm
      · have hlast : '.' ∉ [c] := fun hm => hdot (List.mem_singleton.mp hm).symm
        rcases h.dotted with ⟨hbase, hnone⟩ | ⟨rest, hsome, hrest⟩
        · exact .inl ⟨hbase, List.not_mem_append hnone hlast⟩
        · exact .inr ⟨rest ++ [c], by rw [hsome, List.cons_append], List.not_mem_append hrest hlast⟩

theorem gathers_foldl (path : Text) : (path.foldl push ⟨[], [], []⟩).Gathers path := by
  -- From the end of the path, as the invariant speaks of the part that has been read.
  induction path using List.reverseRecOn with
  | nil => exact ⟨⟨rfl, .inl rfl, List.not_mem_nil, List.not_mem_nil⟩, .inl ⟨rfl, List.not_mem_nil⟩⟩
  | append_singleton path c ih =>
    rw [List.foldl_concat]
    exact ih.push c

theorem Gathers.splits_settle (h : parts.Gathers path) : parts.settle.Splits path := by
  rw [settle]
  rcases h.dotted with ⟨hbase, hnone⟩ | ⟨rest, hsome, hrest⟩
  · have hhead : ¬ parts.suffix.head? = some '.' := fun hhead => hnone (List.mem_of_mem_head? hhead)
    rw [if_neg hhead]
    refine ⟨⟨?_, h.dir, List.not_mem_append h.base h.suffix, List.not_mem_nil⟩, .inl rfl, fun _ => ?_⟩
    · simp [← h.whole]
    · rw [hbase]
      exact hnone
  · have hhead : parts.suffix.head? = some '.' := by rw [hsome, List.head?_cons]
    rw [if_pos hhead]
    refine ⟨h.toCovers, .inr ⟨rest, hsome, hrest⟩, fun hnone => ?_⟩
    rw [hsome] at hnone
    cases hnone

/-- There is one way to split a path, and reading it once from its start finds it. -/
theorem splits_iff_eq_ofPath (path : Text) :
    scan path = ofPath path ∧ ∀ parts : PathParts, parts.Splits path ↔ parts = ofPath path := by
  have hscan : (scan path).Splits path := (gathers_foldl path).splits_settle
  refine ⟨hscan.ofPath_eq.symm, fun parts => ⟨fun h => h.ofPath_eq.symm, ?_⟩⟩
  rintro rfl
  rw [hscan.ofPath_eq]
  exact hscan

example : ofPath "v1.2/foo.bar.proto" = ⟨"v1.2/", "foo.bar", ".proto"⟩ := by
  decide

end PathParts

end SwiftConnections
