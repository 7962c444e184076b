import SwiftConnections.Text

namespace SwiftConnections

namespace Text

theorem cut?_isSome_iff {t p : Text} : (t.cut? p).isSome ↔ p <:+: t := by
  induction t with
  | nil => by_cases hp : p = [] <;> simp [cut?, hp]
  | cons c t ih =>
    rw [List.infix_cons_iff, ← ih, cut?]
    split
    next h => simp [List.isPrefixOf_iff_prefix.mp h]
    next h =>
      have hp : ¬ p <+: c :: t := fun hp => h (List.isPrefixOf_iff_prefix.mpr hp)
      simp [hp]

/-- What a literal does not hold is seen from its characters, without taking it apart as a string. -/
theorem not_mem_literal {c : Char} {chars : List Char} (h : c ∉ chars) : c ∉ (String.ofList chars).toList := by
  rwa [String.toList_ofList]

theorem contains_iff_infix {t p : Text} : t.contains p = true ↔ p <:+: t :=
  cut?_isSome_iff

theorem cut?_eq_none_iff {t p : Text} : t.cut? p = none ↔ t.contains p = false := by
  simp [contains]

/-- An occurrence of a pattern begins where the first character of the pattern stands. -/
theorem cons_infix_append_iff {c : Char} {p a b : Text} (h : c ∉ a) :
    c :: p <:+: a ++ b ↔ c :: p <:+: b := by
  induction a with
  | nil => rfl
  | cons d a ih =>
    have hd : c ≠ d := fun hcd => h (hcd ▸ List.mem_cons_self)
    have ha : c ∉ a := fun hm => h (List.mem_cons_of_mem d hm)
    rw [List.cons_append, List.infix_cons_iff, List.cons_prefix_cons, ih ha]
    simp [hd]

theorem not_cons_infix {c : Char} {p a : Text} (h : c ∉ a) : ¬ c :: p <:+: a :=
  fun hp => h (hp.subset List.mem_cons_self)

theorem prefix_append_cons_iff {c : Char} {p a b : Text} (h : c ∉ p) : p <+: a ++ c :: b ↔ p <+: a := by
  refine ⟨fun hp => ?_, fun hp => hp.trans (List.prefix_append a _)⟩
  rcases List.prefix_or_prefix_of_prefix hp (List.prefix_append a (c :: b)) with hpa | hap
  · exact hpa
  · -- A longer prefix would reach the character behind `a`.
    obtain ⟨rest, rfl⟩ := hap
    rw [List.prefix_append_right_inj] at hp
    cases rest with
    | nil => simp
    | cons d rest =>
      obtain ⟨rfl, -⟩ := List.cons_prefix_cons.mp hp
      exact absurd (List.mem_append_right a List.mem_cons_self) h

/-- A pattern occurs before or behind a character that it does not hold. -/
theorem infix_append_cons_iff {c : Char} {p a b : Text} (h : c ∉ p) :
    p <:+: a ++ c :: b ↔ p <:+: a ∨ p <:+: b := by
  induction a with
  | nil => rw [List.nil_append, List.infix_cons_iff, ← List.nil_append (c :: b), prefix_append_cons_iff h,
      List.prefix_nil, List.infix_nil]
  | cons d a ih =>
    have hprefix : p <+: d :: (a ++ c :: b) ↔ p <+: d :: a := prefix_append_cons_iff (a := d :: a) h
    rw [List.cons_append, List.infix_cons_iff, hprefix, ih, List.infix_cons_iff, or_assoc]

theorem cut?_of_isPrefix {c : Char} {p t : Text} (h : c :: p <+: t) :
    t.cut? (c :: p) = some ([], t.drop (c :: p).length) := by
  cases t with
  | nil => simp at h
  | cons d t => rw [cut?, if_pos (List.isPrefixOf_iff_prefix.mpr h)]

theorem cut?_of_not_isPrefix {c : Char} {p t : Text} (h : ¬ p <+: c :: t) :
    cut? (c :: t) p = (t.cut? p).map fun found => (c :: found.1, found.2) := by
  rw [cut?, if_neg (mt List.isPrefixOf_iff_prefix.mp h)]

theorem eq_of_cut? {t p a b : Text} (h : t.cut? p = some (a, b)) : t = a ++ p ++ b := by
  induction t generalizing a with
  | nil =>
    rw [cut?] at h
    split at h
    next hp => cases h; simp [hp]
    next => cases h
  | cons c t ih =>
    by_cases hp : p <+: c :: t
    · rw [cut?, if_pos (List.isPrefixOf_iff_prefix.mpr hp)] at h
      cases h
      exact (List.prefix_iff_eq_append.mp hp).symm
    · rw [cut?_of_not_isPrefix hp] at h
      obtain ⟨⟨start, rest⟩, hcut, heq⟩ := Option.map_eq_some_iff.mp h
      cases heq
      rw [ih hcut]
      rfl

theorem cut?_append_of_not_mem {c : Char} {p a b : Text} (h : c ∉ a) :
    cut? (a ++ b) (c :: p) = (b.cut? (c :: p)).map fun found => (a ++ found.1, found.2) := by
  induction a with
  | nil => simp
  | cons d a ih =>
    have hd : c ≠ d := fun hcd => h (hcd ▸ List.mem_cons_self)
    have ha : c ∉ a := fun hm => h (List.mem_cons_of_mem d hm)
    rw [List.cons_append, cut?_of_not_isPrefix (by simp [hd]), ih ha, Option.map_map]
    rfl

theorem cut?_append {c : Char} {p a b : Text} (h : c ∉ a) :
    cut? (a ++ (c :: p ++ b)) (c :: p) = some (a, b) := by
  rw [cut?_append_of_not_mem h, cut?_of_isPrefix (List.prefix_append _ b), List.drop_left, Option.map_some,
    List.append_nil]

theorem cut?_singleton (t : Text) (c : Char) :
    t.cut? [c] = if c ∈ t then some (t.takeWhile (· ≠ c), (t.dropWhile (· ≠ c)).tail) else none := by
  split
  next h =>
    obtain ⟨a, b, rfl, ha⟩ := List.eq_append_cons_of_mem h
    have hall : ∀ d ∈ a, decide (d ≠ c) = true := fun d hd => decide_eq_true fun heq => ha (heq ▸ hd)
    have hcut : cut? (a ++ c :: b) [c] = some (a, b) := @cut?_append c [] a b ha
    rw [hcut, List.takeWhile_append_of_pos hall, List.dropWhile_append_of_pos hall]
    simp
  next h =>
    have habsent : ¬ [c] <:+: t := not_cons_infix h
    exact cut?_eq_none_iff.mpr (Bool.eq_false_iff.mpr (mt contains_iff_infix.mp habsent))

end Text

end SwiftConnections
