import Mathlib.Order.Bounds.Basic
import SwiftConnections.Proofs.Plugin.OutputNames

namespace SwiftConnections

namespace NameTable

variable {table last : NameTable} {path path' name : Text} {paths names : List Text}

/-- What the policy keeps of a path in its output names, before all numbers and the component. -/
def stem (table : NameTable) (path : Text) : Text :=
  table.naming.directory (PathParts.ofPath path).dir ++ (PathParts.ofPath path).base

theorem plain_eq_stem (table : NameTable) (path : Text) :
    table.plain path = table.stem path ++ ("." ++ table.component ++ ".swift") := by
  simp [plain, outputName, stem]

theorem numbered_eq_stem (table : NameTable) (path : Text) (n : Nat) :
    table.numbered path n = table.stem path ++ '.' :: Text.ofNat n ++ ("." ++ table.component ++ ".swift") := by
  simp [numbered, outputName, stem]

theorem plain_inj : table.plain path = table.plain path' ↔ table.stem path = table.stem path' := by
  rw [plain_eq_stem, plain_eq_stem, List.append_left_inj]

/-- Paths of one plain name also share their names with numbers. -/
theorem numbered_of_plain_eq (h : table.plain path = table.plain path') (n : Nat) :
    table.numbered path n = table.numbered path' n := by
  rw [numbered_eq_stem, numbered_eq_stem, plain_inj.mp h]

namespace Finds

theorem start_le {start found : Nat} (h : table.Finds path start found) : start ≤ found := by
  induction h with
  | free => exact le_rfl
  | next _ _ ih => exact Nat.le_of_succ_le ih

theorem taken_of_lt {start found n : Nat} (h : table.Finds path start found) (hstart : start ≤ n) (hn : n < found) :
    table.numbered path n ∈ table.taken := by
  induction h with
  | free => omega
  | @next start found htaken _ ih =>
    rcases Nat.eq_or_lt_of_le hstart with rfl | hlater
    · exact htaken
    · exact ih hlater hn

end Finds

theorem counter_of_next (table : NameTable) (taken : List Text) (plain : Text) (n : Nat) (p : Text) :
    counter { table with taken, next := (plain, n) :: table.next } p = if p = plain then n else table.counter p := by
  rw [counter, List.lookup_cons]
  by_cases h : p = plain
  · rw [if_pos h, beq_iff_eq.mpr h]
    rfl
  · rw [if_neg h, beq_false_of_ne h]
    rfl

/-- The numbers that a search from the beginning may stop at. -/
def freeNumbers (table : NameTable) (path : Text) : Set Nat :=
  {n | 1 ≤ n ∧ table.numbered path n ∉ table.taken}

/-- What is remembered skips only numbers whose names are handed out. -/
structure Remembers (table : NameTable) : Prop where
  positive : ∀ plain, 1 ≤ table.counter plain
  taken : ∀ path n, 1 ≤ n → n < table.counter (table.plain path) → table.numbered path n ∈ table.taken

theorem remembers_new (component : Text) (naming : FileNaming) : Remembers { component, naming } where
  positive _ := le_rfl
  taken _ _ h h' := absurd h (Nat.not_le_of_lt h')

/-- A search that begins at the number remembered ends where one from the beginning ends. -/
theorem Remembers.isLeast {n : Nat} (hr : table.Remembers)
    (h : table.Finds path (table.counter (table.plain path)) n) : IsLeast (table.freeNumbers path) n := by
  have hpositive := hr.positive (table.plain path)
  refine ⟨⟨hpositive.trans h.start_le, h.not_taken⟩, fun m ⟨hm, hfree⟩ => ?_⟩
  by_contra hlt
  by_cases hskipped : m < table.counter (table.plain path)
  · exact hfree (hr.taken path m hm hskipped)
  · exact hfree (h.taken_of_lt (Nat.le_of_not_lt hskipped) (Nat.lt_of_not_le hlt))

namespace Claims

theorem naming (h : table.Claims path name last) : last.naming = table.naming := by
  cases h <;> rfl

theorem remembers (h : table.Claims path name last) (hr : table.Remembers) : last.Remembers := by
  cases h with
  | plain => exact ⟨hr.positive, fun path' m hm hlt => List.mem_cons_of_mem _ (hr.taken path' m hm hlt)⟩
  | @numbered n hplain hfinds =>
    have hcounter := counter_of_next table (table.numbered path n :: table.taken) (table.plain path) (n + 1)
    constructor
    · intro plain
      rw [hcounter]
      split
      · exact Nat.le_add_left 1 n
      · exact hr.positive plain
    · intro path' m hm hlt
      have hbound := lt_of_lt_of_eq hlt (hcounter (table.plain path'))
      by_cases heq : table.plain path' = table.plain path
      · rw [if_pos heq] at hbound
        have hname : table.numbered path' m = table.numbered path m := numbered_of_plain_eq heq m
        -- The numbers before the one found are taken, and that one is taken now.
        rcases Nat.lt_succ_iff_lt_or_eq.mp hbound with hbefore | rfl
        · have htaken : table.numbered path m ∈ table.taken := by
            by_contra hfree
            exact Nat.not_le_of_lt hbefore ((hr.isLeast hfinds).2 ⟨hm, hfree⟩)
          exact List.mem_cons_of_mem _ (hname ▸ htaken)
        · exact List.mem_cons.mpr (.inl hname)
      · rw [if_neg heq] at hbound
        exact List.mem_cons_of_mem _ (hr.taken path' m hm hbound)

end Claims

namespace Runs

theorem remembers (h : Runs table paths names last) (hr : table.Remembers) : last.Remembers := by
  induction h with
  | done => exact hr
  | claim hclaim _ ih => exact ih (hclaim.remembers hr)

theorem kept (h : Runs table paths names last) :
    last.component = table.component ∧ last.naming = table.naming := by
  induction h with
  | done => exact ⟨rfl, rfl⟩
  | claim hclaim _ ih => exact ⟨ih.1.trans hclaim.component, ih.2.trans hclaim.naming⟩

end Runs

/-- What a claim hands out if these names were handed out before: the plain name, or else the name with the least
number that makes it a new one. -/
def HandsOut (component : Text) (naming : FileNaming) (names : List Text) (path name : Text) : Prop :=
  (outputName component naming path ∉ names → name = outputName component naming path) ∧
    (outputName component naming path ∈ names →
      ∃ n, IsLeast {n | 1 ≤ n ∧ outputName (Text.ofNat n ++ "." ++ component) naming path ∉ names} n ∧
        name = outputName (Text.ofNat n ++ "." ++ component) naming path)

theorem HandsOut.unique {component : Text} {naming : FileNaming} {names names' : List Text} {path name name' : Text}
    (h : HandsOut component naming names path name) (h' : HandsOut component naming names' path name')
    (hnames : ∀ name, name ∈ names ↔ name ∈ names') : name = name' := by
  simp only [HandsOut, hnames] at h
  by_cases htaken : outputName component naming path ∈ names'
  · obtain ⟨n, hn, rfl⟩ := h.2 htaken
    obtain ⟨n', hn', rfl⟩ := h'.2 htaken
    rw [hn.unique hn']
  · rw [h.1 htaken, h'.1 htaken]

theorem Claims.handsOut (h : table.Claims path name last) (hr : table.Remembers) :
    HandsOut table.component table.naming table.taken path name := by
  cases h with
  | plain hfree => exact ⟨fun _ => rfl, fun htaken => absurd htaken hfree⟩
  | @numbered n htaken hfinds => exact ⟨fun hfree => absurd htaken hfree, fun _ => ⟨n, hr.isLeast hfinds, rfl⟩⟩

/-- A claim searches as if from the beginning, whatever the table remembers. So it depends on no more than which
names are handed out. -/
theorem claim_handsOut (component : Text) (naming : FileNaming) (paths : List Text) (path : Text) :
    let table : NameTable := { component, naming }
    HandsOut component naming (table.claimAll paths) path ((table.after paths).claim path).1 ∧
      ∀ paths', (∀ name, name ∈ table.claimAll paths ↔ name ∈ table.claimAll paths') →
        ((table.after paths).claim path).1 = ((table.after paths').claim path).1 := by
  intro table
  have hhands : ∀ paths, HandsOut component naming (table.claimAll paths) path ((table.after paths).claim path).1 := by
    intro paths
    have hruns := table.runs_claimAll paths
    have hclaim := ((table.after paths).claims_claim path).handsOut (hruns.remembers (remembers_new component naming))
    have htaken : ∀ name, name ∈ (table.after paths).taken ↔ name ∈ table.claimAll paths := by
      intro name
      rw [hruns.taken_eq, List.append_nil, List.mem_reverse]
    rw [hruns.kept.1, hruns.kept.2] at hclaim
    simp only [HandsOut, htaken] at hclaim
    exact hclaim
  exact ⟨hhands paths, fun paths' h => (hhands paths).unique (hhands paths') h⟩

/-- The two tables hold the same names, but only the second one has a number to go on from. -/
theorem claim_handsOut_two_tables :
    let table : NameTable := { component := "zap", naming := .dropPath }
    let name : Text := "x.2.zap.swift"
    ((table.after ["x.1.proto", "a/x.proto"]).claim "b/x.proto").1 = name ∧
      ((table.after ["a/x.proto", "b/x.proto"]).claim "b/x.proto").1 = name ∧
      IsLeast {n | 1 ≤ n ∧ outputName (Text.ofNat n ++ "." ++ "zap") .dropPath "b/x.proto" ∉
        [("x.1.zap.swift" : Text), "x.zap.swift"]} 2 := by
  intro table name
  obtain ⟨hhands, hsame⟩ := claim_handsOut "zap" .dropPath ["x.1.proto", "a/x.proto"] "b/x.proto"
  have hnames : table.claimAll ["x.1.proto", "a/x.proto"] = ["x.1.zap.swift", "x.zap.swift"] := by decide
  have hnames' : table.claimAll ["a/x.proto", "b/x.proto"] = ["x.zap.swift", "x.1.zap.swift"] := by decide
  have hclaim : ((table.after ["x.1.proto", "a/x.proto"]).claim "b/x.proto").1 = name := by decide
  have hperm : ∀ name, name ∈ table.claimAll ["x.1.proto", "a/x.proto"] ↔
      name ∈ table.claimAll ["a/x.proto", "b/x.proto"] := by
    intro name
    rw [hnames, hnames']
    simp [or_comm]
  refine ⟨hclaim, (hsame _ hperm).symm.trans hclaim, ?_⟩
  rw [hclaim, hnames] at hhands
  obtain ⟨n, hn, hname⟩ := hhands.2 (by decide)
  have htwo : table.numbered "b/x.proto" 2 = table.numbered "b/x.proto" n := hname
  rwa [← numbered_inj.mp htwo] at hn

end NameTable

end SwiftConnections
