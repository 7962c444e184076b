import SwiftConnections.Http.Rule

namespace SwiftConnections

inductive RuleSlot
  | selector
  | get
  | put
  | post
  | delete
  | patch
  | customKind
  | customPath
  | body
  | responseBody
  deriving DecidableEq

/-- The number that stands before the string of a slot. A custom pattern numbers its parts by itself. -/
def RuleSlot.tag : RuleSlot → Nat
  | selector => 1
  | get => 2
  | put => 3
  | post => 4
  | delete => 5
  | patch => 6
  | customKind => 1
  | customPath => 2
  | body => 7
  | responseBody => 12

structure RuleString where
  owner : HttpRule
  slot : RuleSlot
  value : Text

/-- A string counts only if it is not empty. -/
def RuleSlot.unlessEmpty (slot : RuleSlot) (value : Text) : List (RuleSlot × Text) :=
  if value = [] then [] else [(slot, value)]

/-- The strings of a pattern. The path of a plain verb counts also if it is empty. -/
def HttpPattern.slots : HttpPattern → List (RuleSlot × Text)
  | get path => [(.get, path)]
  | put path => [(.put, path)]
  | post path => [(.post, path)]
  | delete path => [(.delete, path)]
  | patch path => [(.patch, path)]
  | custom kind path => RuleSlot.customKind.unlessEmpty kind ++ RuleSlot.customPath.unlessEmpty path

namespace HttpRule

/-- The strings of the rule itself that come before its additional bindings. -/
def leading (rule : HttpRule) : List (RuleSlot × Text) :=
  RuleSlot.selector.unlessEmpty rule.selector ++ (rule.pattern.map (·.slots)).getD [] ++
    RuleSlot.body.unlessEmpty rule.body

def trailing (rule : HttpRule) : List (RuleSlot × Text) :=
  RuleSlot.responseBody.unlessEmpty rule.responseBody

def own (owner : HttpRule) (string : RuleSlot × Text) : RuleString :=
  ⟨owner, string.1, string.2⟩

mutual

/-- The strings of a rule and of its additional bindings at any depth, the outer rule before the inner ones
up to its response body. -/
def strings : HttpRule → List RuleString
  | rule@⟨_, _, _, additional, _⟩ =>
    rule.leading.map rule.own ++ stringsOfAll additional ++ rule.trailing.map rule.own

def stringsOfAll : List HttpRule → List RuleString
  | [] => []
  | rule :: rules => strings rule ++ stringsOfAll rules

end

mutual

def tree : HttpRule → List HttpRule
  | rule@⟨_, _, _, additional, _⟩ => rule :: treeOfAll additional

def treeOfAll : List HttpRule → List HttpRule
  | [] => []
  | rule :: rules => tree rule ++ treeOfAll rules

end

mutual

theorem induct {motive : HttpRule → Prop}
    (step : ∀ rule : HttpRule, (∀ inner ∈ rule.additional, motive inner) → motive rule) :
    (rule : HttpRule) → motive rule
  | ⟨_, _, _, additional, _⟩ => step _ (inductAll step additional)

theorem inductAll {motive : HttpRule → Prop}
    (step : ∀ rule : HttpRule, (∀ inner ∈ rule.additional, motive inner) → motive rule) :
    (rules : List HttpRule) → ∀ inner ∈ rules, motive inner
  | [], _, h => by simp at h
  | rule :: rules, inner, h => by
    rcases List.mem_cons.mp h with h | h
    · rw [h]
      exact induct step rule
    · exact inductAll step rules inner h

end

theorem stringsOfAll_eq (rules : List HttpRule) : stringsOfAll rules = rules.flatMap strings := by
  induction rules with
  | nil => rfl
  | cons rule rules ih => rw [stringsOfAll, ih, List.flatMap_cons]

theorem treeOfAll_eq (rules : List HttpRule) : treeOfAll rules = rules.flatMap tree := by
  induction rules with
  | nil => rfl
  | cons rule rules ih => rw [treeOfAll, ih, List.flatMap_cons]

theorem strings_eq (rule : HttpRule) : rule.strings =
    rule.leading.map rule.own ++ rule.additional.flatMap strings ++ rule.trailing.map rule.own := by
  obtain ⟨selector, pattern, body, additional, responseBody⟩ := rule
  rw [strings, stringsOfAll_eq]

theorem tree_eq (rule : HttpRule) : rule.tree = rule :: rule.additional.flatMap tree := by
  obtain ⟨selector, pattern, body, additional, responseBody⟩ := rule
  rw [tree, treeOfAll_eq]

theorem mem_tree_self (rule : HttpRule) : rule ∈ rule.tree := by
  rw [tree_eq]
  exact List.mem_cons_self

/-- The strings of a rule are those of the rules in its tree. -/
theorem mem_strings_iff {rule : HttpRule} {s : RuleString} :
    s ∈ rule.strings ↔
      s.owner ∈ rule.tree ∧ (s.slot, s.value) ∈ s.owner.leading ++ s.owner.trailing := by
  induction rule using induct with
  | step rule ih =>
    have hown : ∀ strings : List (RuleSlot × Text),
        s ∈ strings.map rule.own ↔ s.owner = rule ∧ (s.slot, s.value) ∈ strings := by
      intro strings
      obtain ⟨owner, slot, value⟩ := s
      simp only [List.mem_map, own, RuleString.mk.injEq]
      constructor
      · rintro ⟨string, hs, rfl, rfl, rfl⟩
        exact ⟨rfl, hs⟩
      · rintro ⟨rfl, hs⟩
        exact ⟨_, hs, rfl, rfl, rfl⟩
    have hinner : (∃ r ∈ rule.additional, s ∈ r.strings) ↔
        (∃ r ∈ rule.additional, s.owner ∈ r.tree) ∧
          (s.slot, s.value) ∈ s.owner.leading ++ s.owner.trailing := by
      constructor
      · rintro ⟨r, hr, hs⟩
        obtain ⟨ht, hs⟩ := (ih r hr).mp hs
        exact ⟨⟨r, hr, ht⟩, hs⟩
      · rintro ⟨⟨r, hr, ht⟩, hs⟩
        exact ⟨r, hr, (ih r hr).mpr ⟨ht, hs⟩⟩
    rw [strings_eq, tree_eq]
    simp only [List.mem_append, List.mem_flatMap, List.mem_cons, hown, hinner]
    constructor
    · rintro ((⟨h, hs⟩ | ⟨ht, hs⟩) | ⟨h, hs⟩)
      · exact ⟨.inl h, .inl (h ▸ hs)⟩
      · exact ⟨.inr ht, hs⟩
      · exact ⟨.inl h, .inr (h ▸ hs)⟩
    · rintro ⟨h | ht, hs⟩
      · exact hs.elim (fun hs => .inl (.inl ⟨h, h ▸ hs⟩)) fun hs => .inr ⟨h, h ▸ hs⟩
      · exact .inl (.inr ⟨ht, hs⟩)

end HttpRule

namespace MethodOptions

def strings (options : MethodOptions) : List RuleString :=
  (options.http.map (·.strings)).getD []

def rules (options : MethodOptions) : List HttpRule :=
  (options.http.map (·.tree)).getD []

theorem mem_strings_iff {options : MethodOptions} {s : RuleString} :
    s ∈ options.strings ↔
      s.owner ∈ options.rules ∧ (s.slot, s.value) ∈ s.owner.leading ++ s.owner.trailing := by
  cases h : options.http with
  | none => simp [strings, rules, h]
  | some rule => simpa [strings, rules, h] using HttpRule.mem_strings_iff

end MethodOptions

end SwiftConnections
