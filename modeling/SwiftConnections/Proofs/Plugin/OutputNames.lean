import Mathlib.Data.Finset.Card
import SwiftConnections.NameTable
import SwiftConnections.Proofs.Text.Decimal

namespace SwiftConnections

namespace NameTable

variable {table last : NameTable} {path name : Text} {paths names : List Text}

theorem numbered_inj {m n : Nat} : table.numbered path m = table.numbered path n ↔ m = n := by
  simp only [numbered, outputName, List.append_left_inj, List.append_right_inj, Text.ofNat_inj]

/-- The numbers from the first one on are tried one by one until the name of one is free. -/
inductive Finds (table : NameTable) (path : Text) : Nat → Nat → Prop
  | free {n} (h : table.numbered path n ∉ table.taken) : Finds table path n n
  | next {n found} (h : table.numbered path n ∈ table.taken) :
    Finds table path (n + 1) found → Finds table path n found

theorem Finds.not_taken {start found : Nat} (h : table.Finds path start found) :
    table.numbered path found ∉ table.taken := by
  induction h with
  | free h => exact h
  | next _ _ ih => exact ih

theorem finds_find? {start count : Nat}
    (h : ∃ n ∈ List.range' start count, table.numbered path n ∉ table.taken) :
    ∃ found, (List.range' start count).find? (fun n => table.numbered path n ∉ table.taken) = some found ∧
      table.Finds path start found := by
  induction count generalizing start with
  | zero => simp at h
  | succ count ih =>
    by_cases hfree : table.numbered path start ∉ table.taken
    · exact ⟨start, by simp [List.range'_succ, hfree], .free hfree⟩
    · have htaken : table.numbered path start ∈ table.taken := not_not.mp hfree
      obtain ⟨n, hn, hnfree⟩ := h
      have hlater : n ∈ List.range' (start + 1) count := by
        rcases List.mem_cons.mp (List.range'_succ ▸ hn) with rfl | hn
        · exact absurd hnfree hfree
        · exact hn
      obtain ⟨found, hfound, hfinds⟩ := ih ⟨n, hlater, hnfree⟩
      exact ⟨found, by simpa [List.range'_succ, htaken] using hfound, .next htaken hfinds⟩

/-- Different numbers give different names, so the names handed out cannot cover one number more. -/
theorem exists_free (table : NameTable) (path : Text) (start : Nat) :
    ∃ n ∈ List.range' start (table.taken.length + 1), table.numbered path n ∉ table.taken := by
  by_contra hcover
  have hsub : (List.range' start (table.taken.length + 1)).map (table.numbered path) ⊆ table.taken := by
    intro name hname
    obtain ⟨n, hn, rfl⟩ := List.mem_map.mp hname
    by_contra hfree
    exact hcover ⟨n, hn, hfree⟩
  have hnodup := (List.nodup_range' (s := start) (n := table.taken.length + 1)).map
    fun m n (h : table.numbered path m = table.numbered path n) => numbered_inj.mp h
  have hlength := hnodup.length_le_of_subset hsub
  simp only [List.length_map, List.length_range'] at hlength
  omega

theorem finds_firstFree (table : NameTable) (path : Text) (start : Nat) :
    table.Finds path start (table.firstFree path start) := by
  obtain ⟨found, hfound, hfinds⟩ := finds_find? (table.exists_free path start)
  have hfirst : table.firstFree path start = found := by
    rw [firstFree, ← List.range'_eq_map_range, hfound, Option.getD_some]
  rwa [hfirst]

/-- What a claim that ends can come to. -/
inductive Claims (table : NameTable) (path : Text) : Text → NameTable → Prop
  | plain (h : table.plain path ∉ table.taken) :
    Claims table path (table.plain path) { table with taken := table.plain path :: table.taken }
  | numbered {n} (h : table.plain path ∈ table.taken) (hn : table.Finds path (table.counter (table.plain path)) n) :
    Claims table path (table.numbered path n)
      { table with
        taken := table.numbered path n :: table.taken
        next := (table.plain path, n + 1) :: table.next }

theorem claims_claim (table : NameTable) (path : Text) :
    table.Claims path (table.claim path).1 (table.claim path).2 := by
  by_cases h : table.plain path ∈ table.taken
  · have hclaim := Claims.numbered h (table.finds_firstFree path (table.counter (table.plain path)))
    simpa only [claim, if_pos h] using hclaim
  · have hclaim := Claims.plain h
    simpa only [claim, if_neg h] using hclaim

theorem Claims.taken (h : table.Claims path name last) : last.taken = name :: table.taken := by
  cases h <;> rfl

theorem Claims.not_taken (h : table.Claims path name last) : name ∉ table.taken := by
  cases h with
  | plain h => exact h
  | numbered _ hn => exact hn.not_taken

theorem Claims.component (h : table.Claims path name last) : last.component = table.component := by
  cases h <;> rfl

theorem Claims.suffix (h : table.Claims path name last) : ("." ++ table.component ++ ".swift" : Text) <:+ name := by
  cases h with
  | plain _ =>
    exact ⟨table.naming.directory (PathParts.ofPath path).dir ++ (PathParts.ofPath path).base,
      by simp [NameTable.plain, outputName]⟩
  | @numbered n _ _ =>
    exact ⟨table.naming.directory (PathParts.ofPath path).dir ++ (PathParts.ofPath path).base ++ "." ++ Text.ofNat n,
      by simp [NameTable.numbered, outputName]⟩

/-- The claims of a list of paths, each on the table that the claim before it left. -/
inductive Runs : NameTable → List Text → List Text → NameTable → Prop
  | done (table : NameTable) : Runs table [] [] table
  | claim {table next last : NameTable} {path name : Text} {paths names : List Text}
    (h : table.Claims path name next) :
    Runs next paths names last → Runs table (path :: paths) (name :: names) last

/-- The table after a list of claims. -/
def after (table : NameTable) (paths : List Text) : NameTable :=
  paths.foldl (fun table path => (table.claim path).2) table

theorem runs_claimAll (table : NameTable) (paths : List Text) :
    Runs table paths (table.claimAll paths) (table.after paths) := by
  induction paths generalizing table with
  | nil => exact .done table
  | cons path paths ih => exact .claim (table.claims_claim path) (ih (table.claim path).2)

namespace Runs

theorem length_eq (h : Runs table paths names last) : names.length = paths.length := by
  induction h with
  | done => rfl
  | claim _ _ ih => rw [List.length_cons, ih, List.length_cons]

theorem taken_eq (h : Runs table paths names last) : last.taken = names.reverse ++ table.taken := by
  induction h with
  | done => rfl
  | claim hc _ ih => rw [ih, hc.taken, List.reverse_cons, List.append_assoc, List.singleton_append]

theorem suffix (h : Runs table paths names last) :
    ∀ name ∈ names, ("." ++ table.component ++ ".swift" : Text) <:+ name := by
  induction h with
  | done => simp
  | claim hc _ ih =>
    rw [hc.component] at ih
    exact List.forall_mem_cons.mpr ⟨hc.suffix, ih⟩

theorem nodup (h : Runs table paths names last) (ht : table.taken.Nodup) : last.taken.Nodup := by
  induction h with
  | done => exact ht
  | claim hc _ ih =>
    apply ih
    rw [hc.taken]
    exact List.nodup_cons.mpr ⟨hc.not_taken, ht⟩

end Runs

theorem nodup_claimAll (component : Text) (naming : FileNaming) (paths : List Text) :
    (claimAll { component, naming } paths).Nodup := by
  have hrun := runs_claimAll { component, naming } paths
  have hnodup := hrun.nodup List.nodup_nil
  rw [hrun.taken_eq, List.append_nil] at hnodup
  exact List.nodup_reverse.mp hnodup

theorem claimAll_take (table : NameTable) (paths : List Text) (k : Nat) :
    table.claimAll (paths.take k) = (table.claimAll paths).take k := by
  induction paths generalizing table k with
  | nil => simp [claimAll]
  | cons path paths ih =>
    cases k with
    | zero => rfl
    | succ k => simp [claimAll, ih]

/-- Every claim on a new table comes to an end, no name is handed out twice, and after each claim the table
holds one name for each claim so far. -/
theorem claims_distinct (component : Text) (naming : FileNaming) (paths : List Text) :
    let table : NameTable := { component, naming }
    Runs table paths (table.claimAll paths) (table.after paths) ∧
      (table.claimAll paths).Nodup ∧
      ∀ k, (table.after (paths.take k)).taken = ((table.claimAll paths).take k).reverse ∧
        (table.after (paths.take k)).taken.toFinset.card = min k paths.length := by
  intro table
  refine ⟨table.runs_claimAll paths, nodup_claimAll component naming paths, fun k => ?_⟩
  have hrun := table.runs_claimAll (paths.take k)
  have htaken : (table.after (paths.take k)).taken = ((table.claimAll paths).take k).reverse := by
    rw [hrun.taken_eq, claimAll_take, List.append_nil]
  refine ⟨htaken, ?_⟩
  have hlength := hrun.length_eq
  rw [claimAll_take] at hlength
  rw [List.toFinset_card_of_nodup (hrun.nodup List.nodup_nil), htaken, List.length_reverse, hlength,
    List.length_take]

example : claimAll { component := "zap", naming := .dropPath } ["a/x.proto", "b/x.proto", "x.1.proto", "c/x.proto"] =
    ["x.zap.swift", "x.1.zap.swift", "x.1.1.zap.swift", "x.2.zap.swift"] := by
  decide

end NameTable

end SwiftConnections
