import SwiftConnections.Proofs.Connections.Outline
import SwiftConnections.Proofs.Swift.WrittenLines

namespace SwiftConnections

/-- The lines are those of the entries in order, with those of the marks in order among them. -/
inductive Merges : List (List Text) → List (List Text) → List Text → Prop
  | nil : Merges [] [] []
  | entry {entries marks lines} (entry : List Text) :
    Merges entries marks lines → Merges (entry :: entries) marks (entry ++ lines)
  | mark {entries marks lines} (mark : List Text) :
    Merges entries marks lines → Merges entries (mark :: marks) (mark ++ lines)

/-- The items, each with the word whether more items come behind it. -/
def withMore {α : Type} : List α → List (α × Bool)
  | [] => []
  | a :: rest => (a, !rest.isEmpty) :: withMore rest

theorem map_withMore_fst {α β : Type} (f : α → β) (items : List α) :
    ((withMore items).map fun p => f p.1) = items.map f := by
  induction items with
  | nil => rfl
  | cons a rest ih => rw [withMore, List.map_cons, List.map_cons, ih]

/-- The lines that stand before each piece of a pass. -/
def gapLines : (spaced : Bool) → List Text
  | true => [[]]
  | false => []

theorem writesLines_gap (level : Nat) (spaced : Bool) : WritesLines level (gap spaced) (gapLines spaced) := by
  cases spaced with
  | false => exact ⟨[], .nil, rfl⟩
  | true => exact .emptyLine

theorem SwiftMethod.writesLines_skipMark {m : SwiftMethod} (h : m.IsUnbroken) (level : Nat) :
    WritesLines level (line m.skipMark) [(List.replicate level "    ".toList).flatten ++ m.skipMark] :=
  .line (c := '/') (List.mem_of_mem_head? rfl) (by decide) h.skipMark

/-- A pass writes the lines of the methods that are implemented, with the marks of the other ones among them. -/
theorem passCode_merges {level : Nat} (spaced : Bool) {code : SwiftMethod → Bool → List Step}
    {entry : SwiftMethod → Bool → List Text} {methods : List SwiftMethod} (hm : ∀ m ∈ methods, m.IsUnbroken)
    (h : ∀ m ∈ methods, ∀ more, WritesLines level (code m more) (entry m more)) :
    ∃ lines, WritesLines level (passCode spaced code methods) lines ∧
      Merges ((withMore (methods.filter (·.isSupported))).map fun p => gapLines spaced ++ entry p.1 p.2)
        ((methods.filter (!·.isSupported)).map fun m =>
          gapLines spaced ++ [(List.replicate level "    ".toList).flatten ++ m.skipMark]) lines := by
  induction methods with
  | nil => exact ⟨[], ⟨[], .nil, rfl⟩, .nil⟩
  | cons m rest ih =>
    obtain ⟨hunbroken, hrest⟩ := List.forall_mem_cons.mp hm
    obtain ⟨hentry, hentries⟩ := List.forall_mem_cons.mp h
    obtain ⟨lines, hlines, hmerges⟩ := ih hrest hentries
    have hgap := writesLines_gap level spaced
    cases hs : m.isSupported with
    | true =>
      have hcode : m.codeOr (code m (rest.any (·.isSupported))) = code m (rest.any (·.isSupported)) := if_pos hs
      have hmore : rest.any (·.isSupported) = !(rest.filter (·.isSupported)).isEmpty := by
        rw [Bool.eq_iff_iff]
        simp
      refine ⟨_, (hgap.append (hcode ▸ hentry _)).append hlines, ?_⟩
      simp only [List.filter_cons, hs, if_true, Bool.not_true, Bool.false_eq_true, if_false, withMore, List.map_cons, hmore]
      exact .entry _ hmerges
    | false =>
      have hcode : m.codeOr (code m (rest.any (·.isSupported))) = line m.skipMark :=
        if_neg (by rw [hs]; exact Bool.false_ne_true)
      refine ⟨_, (hgap.append (hcode ▸ m.writesLines_skipMark hunbroken level)).append hlines, ?_⟩
      simp only [List.filter_cons, hs, Bool.not_false, if_true, Bool.false_eq_true, if_false, List.map_cons]
      exact .mark _ hmerges

/-- A pass in which the code for a method does not depend on the methods behind it. -/
theorem pass_merges {level : Nat} (spaced : Bool) {code : SwiftMethod → List Step} {entry : SwiftMethod → List Text}
    {methods : List SwiftMethod} (hm : ∀ m ∈ methods, m.IsUnbroken)
    (h : ∀ m ∈ methods, WritesLines level (code m) (entry m)) :
    ∃ lines, WritesLines level (methods.flatMap fun m => gap spaced ++ m.codeOr (code m)) lines ∧
      Merges ((methods.filter (·.isSupported)).map fun m => gapLines spaced ++ entry m)
        ((methods.filter (!·.isSupported)).map fun m =>
          gapLines spaced ++ [(List.replicate level "    ".toList).flatten ++ m.skipMark]) lines := by
  obtain ⟨lines, hlines, hmerges⟩ := passCode_merges spaced hm fun m hmem (_ : Bool) => h m hmem
  rw [passCode_eq] at hlines
  have hentries := map_withMore_fst (fun m => gapLines spaced ++ entry m) (methods.filter (·.isSupported))
  exact ⟨lines, hlines, hentries ▸ hmerges⟩

end SwiftConnections
