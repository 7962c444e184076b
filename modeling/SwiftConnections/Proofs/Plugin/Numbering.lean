import SwiftConnections.Proofs.Plugin.LeastNumber
import SwiftConnections.Proofs.Plugin.PlainNames

namespace SwiftConnections

/-- The text ends with a point and digits. -/
def EndsInNumber (t : Text) : Prop :=
  ∃ stem digits, t = stem ++ '.' :: digits ∧ digits ≠ [] ∧ ∀ c ∈ digits, c.isDigit = true

theorem cutAfterLast_point {stem digits : Text} (h : ∀ c ∈ digits, c.isDigit = true) :
    Text.cutAfterLast (stem ++ '.' :: digits) '.' = (stem ++ ['.'], digits) := by
  have hpoint : '.' ∉ digits := fun hm => absurd (h _ hm) (by decide)
  have hlast : (stem ++ ['.']).getLast? = some '.' := List.getLast?_concat
  rw [← Text.cutAfterLast_of_append (.inr hlast) hpoint, List.append_assoc, List.singleton_append]

theorem endsInNumber_iff {t : Text} : EndsInNumber t ↔
    (t.cutAfterLast '.').1 ≠ [] ∧ (t.cutAfterLast '.').2 ≠ [] ∧ (t.cutAfterLast '.').2.all Char.isDigit = true := by
  rw [List.all_eq_true]
  constructor
  · rintro ⟨stem, digits, rfl, hne, hdigits⟩
    rw [cutAfterLast_point hdigits]
    exact ⟨List.append_ne_nil_of_right_ne_nil stem (List.cons_ne_nil _ _), hne, hdigits⟩
  · rintro ⟨hstem, hne, hdigits⟩
    obtain ⟨stem, hlast⟩ := List.getLast?_eq_some_iff.mp ((t.getLast?_cutAfterLast '.').resolve_left hstem)
    have hcut := t.cutAfterLast_append '.'
    rw [hlast, List.append_assoc] at hcut
    exact ⟨stem, (t.cutAfterLast '.').2, hcut.symm, hne, hdigits⟩

instance (t : Text) : Decidable (EndsInNumber t) :=
  decidable_of_iff' _ endsInNumber_iff

/-- A text without a mark that ends what follows the last mark is the end of that. -/
theorem suffix_of_append_eq {a b s d : Text} {mark : Char} (ha : a = [] ∨ a.getLast? = some mark) (hd : mark ∉ d)
    (h : a ++ b = s ++ d) : d <:+ b := by
  rcases List.append_eq_append_iff.mp h with ⟨middle, -, rfl⟩ | ⟨middle, rfl, rfl⟩
  · exact List.suffix_append middle d
  · have hmiddle : middle = [] := by
      rcases ha with ha | ha
      · exact (List.append_eq_nil_iff.mp ha).2
      · by_contra hne
        rw [List.getLast?_append_of_ne_nil _ hne] at ha
        exact hd (List.mem_append_left b (List.mem_of_getLast? ha))
    rw [hmiddle, List.nil_append]

namespace FileNaming

/-- The character that ends the directories as the policy keeps them. -/
def mark : FileNaming → Char
  | fullPath | dropPath => '/'
  | pathToUnderscores => '_'

theorem getLast?_directory (naming : FileNaming) {dir : Text} (h : dir = [] ∨ dir.getLast? = some '/') :
    naming.directory dir = [] ∨ (naming.directory dir).getLast? = some naming.mark := by
  cases naming with
  | fullPath => exact h
  | dropPath => exact .inl rfl
  | pathToUnderscores =>
    rcases h with rfl | h
    · exact .inl rfl
    · refine .inr ?_
      rw [directory, List.getLast?_map, h]
      rfl

theorem mark_not_digit (naming : FileNaming) : naming.mark ≠ '.' ∧ naming.mark.isDigit = false := by
  cases naming <;> decide

end FileNaming

namespace NameTable

variable {table last : NameTable} {path path' name : Text} {earlier paths names : List Text}

/-- What the policy makes of the directories does not end in a number, so the base name does. -/
theorem endsInNumber_of_stem (h : EndsInNumber (table.stem path)) : EndsInNumber (PathParts.ofPath path).base := by
  obtain ⟨stem, digits, heq, hne, hdigits⟩ := h
  obtain ⟨hpoint, hdigit⟩ := table.naming.mark_not_digit
  have hmark : table.naming.mark ∉ '.' :: digits := by
    intro hm
    rcases List.mem_cons.mp hm with hm | hm
    · exact hpoint hm
    · exact absurd (hdigits _ hm) (by simp [hdigit])
  have hdir := table.naming.getLast?_directory (PathParts.getLast?_dir path)
  obtain ⟨start, hstart⟩ := suffix_of_append_eq hdir hmark heq
  exact ⟨start, digits, hstart.symm, hne, hdigits⟩

theorem numbered_ne_plain (h : ¬ EndsInNumber (PathParts.ofPath path).base) (path' : Text) (n : Nat) :
    table.numbered path' n ≠ table.plain path := by
  intro heq
  rw [numbered_eq_stem, plain_eq_stem, List.append_left_inj] at heq
  exact h (endsInNumber_of_stem ⟨table.stem path', Text.ofNat n, heq.symm, Nat.toDigits_ne_nil,
    fun _ => Text.isDigit_of_mem_ofNat⟩)

theorem numbered_eq_iff {m n : Nat} :
    table.numbered path m = table.numbered path' n ↔ table.plain path = table.plain path' ∧ m = n := by
  constructor
  · intro h
    rw [numbered_eq_stem, numbered_eq_stem, List.append_left_inj] at h
    have hcut : Text.cutAfterLast (table.stem path ++ '.' :: Text.ofNat m) '.' =
        (table.stem path ++ ['.'], Text.ofNat m) := cutAfterLast_point fun _ => Text.isDigit_of_mem_ofNat
    rw [h, cutAfterLast_point fun _ => Text.isDigit_of_mem_ofNat] at hcut
    obtain ⟨hstem, hnumber⟩ := Prod.mk.inj hcut
    exact ⟨plain_inj.mpr (List.append_cancel_right hstem).symm, (Text.ofNat_inj.mp hnumber).symm⟩
  · rintro ⟨h, rfl⟩
    exact numbered_of_plain_eq h m

/-- How many paths have the same plain name as the given one. -/
def count (table : NameTable) (earlier : List Text) (path : Text) : Nat :=
  earlier.countP fun p => table.plain p = table.plain path

theorem count_concat (table : NameTable) (earlier : List Text) (path path' : Text) :
    table.count (earlier ++ [path]) path' =
      table.count earlier path' + if table.plain path = table.plain path' then 1 else 0 := by
  simp [count, List.countP_append, List.countP_singleton]

theorem count_of_plain_eq (h : table.plain path = table.plain path') (earlier : List Text) :
    table.count earlier path = table.count earlier path' := by
  rw [count, count, h]

/-- The names handed out for earlier paths are their plain names, with the numbers from one on for repetitions. -/
structure Counts (table : NameTable) (earlier : List Text) : Prop where
  plain : ∀ path, ¬ EndsInNumber (PathParts.ofPath path).base →
    (table.plain path ∈ table.taken ↔ 0 < table.count earlier path)
  numbered : ∀ path n, table.numbered path n ∈ table.taken ↔ 1 ≤ n ∧ n < table.count earlier path

theorem counts_new (component : Text) (naming : FileNaming) : Counts { component, naming } [] where
  plain _ _ := by simp [count]
  numbered _ _ := by simp [count]

/-- The name at its turn: plain for the first of the paths that share it, then with their number so far. -/
def turnName (table : NameTable) (earlier : List Text) (path : Text) : Text :=
  if table.count earlier path = 0 then table.plain path else table.numbered path (table.count earlier path)

theorem plain_eq_turnName_iff (h : ¬ EndsInNumber (PathParts.ofPath path').base) :
    table.plain path' = table.turnName earlier path ↔
      table.plain path' = table.plain path ∧ table.count earlier path = 0 := by
  rw [turnName]
  split
  next hfirst => simp [hfirst]
  next hagain =>
    have hne : table.numbered path (table.count earlier path) ≠ table.plain path' := numbered_ne_plain h path _
    simp [hagain, hne.symm]

theorem numbered_eq_turnName_iff {n : Nat} (h : ¬ EndsInNumber (PathParts.ofPath path).base) :
    table.numbered path' n = table.turnName earlier path ↔
      table.plain path' = table.plain path ∧ 0 < n ∧ n = table.count earlier path := by
  rw [turnName]
  split
  next hfirst =>
    have hne : table.numbered path' n ≠ table.plain path := numbered_ne_plain h path' n
    simp only [hne, false_iff, not_and]
    omega
  next hagain =>
    rw [numbered_eq_iff]
    refine and_congr_right fun _ => ⟨fun hn => ⟨?_, hn⟩, fun hn => hn.2⟩
    omega

theorem Claims.eq_turnName (h : table.Claims path name last) (hr : table.Remembers) (hc : table.Counts earlier)
    (hp : ¬ EndsInNumber (PathParts.ofPath path).base) : name = table.turnName earlier path := by
  have hplain := hc.plain path hp
  cases h with
  | plain hfree =>
    have hfirst : table.count earlier path = 0 := Nat.eq_zero_of_not_pos (mt hplain.mpr hfree)
    rw [turnName, if_pos hfirst]
  | @numbered n htaken hfinds =>
    have hagain := hplain.mp htaken
    have hleast : IsLeast (table.freeNumbers path) (table.count earlier path) := by
      refine ⟨⟨hagain, fun hm => ?_⟩, fun m ⟨hm, hfree⟩ => ?_⟩
      · exact Nat.lt_irrefl _ ((hc.numbered path _).mp hm).2
      · rw [hc.numbered] at hfree
        omega
    rw [turnName, if_neg (Nat.ne_of_gt hagain), (hr.isLeast hfinds).unique hleast]

/-- After a claim at its turn, the names handed out are those for the paths up to it. -/
theorem Claims.counts (h : table.Claims path name last) (hr : table.Remembers) (hc : table.Counts earlier)
    (hp : ¬ EndsInNumber (PathParts.ofPath path).base) : last.Counts (earlier ++ [path]) := by
  have hname := h.eq_turnName hr hc hp
  have hplain : last.plain = table.plain := by cases h <;> rfl
  have hnumbered : last.numbered = table.numbered := by cases h <;> rfl
  have hcount : last.count = table.count := by
    funext earlier path
    rw [count, count, hplain]
  -- The path counts for another one only if they share their plain name, and then the two have one count so far.
  constructor
  · intro path' hp'
    rw [hplain, hcount, count_concat, h.taken, List.mem_cons, hc.plain path' hp', hname, plain_eq_turnName_iff hp']
    by_cases heq : table.plain path = table.plain path'
    · have hsame := count_of_plain_eq heq earlier
      rw [if_pos heq, hsame]
      simp only [heq.symm, true_and]
      omega
    · simp [heq, Ne.symm heq]
  · intro path' n
    rw [hnumbered, hcount, count_concat, h.taken, List.mem_cons, hc.numbered, hname, numbered_eq_turnName_iff hp]
    by_cases heq : table.plain path = table.plain path'
    · have hsame := count_of_plain_eq heq earlier
      rw [if_pos heq, hsame]
      simp only [heq.symm, true_and]
      omega
    · simp [heq, Ne.symm heq]

theorem Runs.getElem? (h : Runs table paths names last) (hr : table.Remembers) (hc : table.Counts earlier)
    (hp : ∀ path ∈ paths, ¬ EndsInNumber (PathParts.ofPath path).base) (i : Nat) :
    names[i]? = paths[i]?.map (table.turnName (earlier ++ paths.take i)) := by
  induction h generalizing earlier i with
  | done => rfl
  | @claim table next last path name paths names hclaim _ ih =>
    obtain ⟨hpath, hpaths⟩ := List.forall_mem_cons.mp hp
    cases i with
    | zero => simp [hclaim.eq_turnName hr hc hpath]
    | succ i =>
      have hrest := ih (hclaim.remembers hr) (hclaim.counts hr hc hpath) hpaths i
      have hturn : next.turnName = table.turnName := by cases hclaim <;> rfl
      rw [hturn, List.append_assoc, List.singleton_append] at hrest
      simpa using hrest

/-- Where no base name ends in a number itself, the number of a name counts the earlier paths of the same plain
name, and the first of these has the plain name. -/
theorem claimAll_eq_mapIdx {paths : List Text} (component : Text) (naming : FileNaming)
    (h : ∀ path ∈ paths, ¬ EndsInNumber (PathParts.ofPath path).base) :
    claimAll { component, naming } paths = paths.mapIdx fun i path =>
      let plain := outputName component naming path
      let k := (paths.take i).countP fun earlier => outputName component naming earlier = plain
      if k = 0 then plain else outputName (Text.ofNat k ++ "." ++ component) naming path := by
  refine List.ext_getElem? fun i => ?_
  have hruns := runs_claimAll { component, naming } paths
  rw [hruns.getElem? (remembers_new component naming) (counts_new component naming) h i, List.getElem?_mapIdx]
  rfl

theorem claimAll_eq_mapIdx_repeated :
    let paths : List Text := ["a/x.proto", "x.v1.proto", "b/x.proto", "c/x.proto"]
    (∀ path ∈ paths, ¬ EndsInNumber (PathParts.ofPath path).base) ∧
      claimAll { component := "zap", naming := .dropPath } paths =
        ["x.zap.swift", "x.v1.zap.swift", "x.1.zap.swift", "x.2.zap.swift"] := by
  intro paths
  have h : ∀ path ∈ paths, ¬ EndsInNumber (PathParts.ofPath path).base := by decide
  exact ⟨h, (claimAll_eq_mapIdx "zap" .dropPath h).trans (by decide)⟩

end NameTable

end SwiftConnections
