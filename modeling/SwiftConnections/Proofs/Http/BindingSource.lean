import SwiftConnections.Proofs.Http.TypedReading

namespace SwiftConnections

def Verb.pattern : Verb → Text → HttpPattern
  | get => .get
  | post => .post
  | delete => .delete

def Verb.slot : Verb → RuleSlot
  | get => .get
  | post => .post
  | delete => .delete

theorem Verb.verb?_slot (verb : Verb) : verb.slot.verb? = some verb := by
  cases verb <;> rfl

theorem Verb.slot_ne_customPath (verb : Verb) : verb.slot ≠ .customPath := by
  cases verb <;> decide

theorem Verb.slots_pattern (verb : Verb) (path : Text) : (verb.pattern path).slots = [(verb.slot, path)] := by
  cases verb <;> rfl

/-- Verb and path are taken from the pattern of the rule. -/
def HttpBinding.IsFrom (b : HttpBinding) (rule : HttpRule) : Prop :=
  ∃ pattern, rule.pattern = some pattern ∧ ∃ string ∈ pattern.slots,
    string.1.verb? = some b.verb ∧ b.path = PathTemplate.ofPath (pathText string.2)

theorem RuleSlot.mem_unlessEmpty {slot slot' : RuleSlot} {value value' : Text} :
    (slot', value') ∈ slot.unlessEmpty value ↔ value ≠ [] ∧ slot' = slot ∧ value' = value := by
  unfold unlessEmpty
  split <;> simp_all

theorem RuleSlot.unlessEmpty_of_versioned {slot : RuleSlot} {value : Text}
    (h : value.contains "v1" = true) : slot.unlessEmpty value = [(slot, value)] := by
  have hne : value ≠ [] := by
    rintro rfl
    simp [Text.contains, Text.cut?] at h
  rw [unlessEmpty, if_neg hne]

/-- Only a pattern of a verb and the path of a custom pattern are read as a path. -/
theorem HttpRule.pattern_of_mem {rule : HttpRule} {slot : RuleSlot} {value : Text} {verb : Verb}
    (hm : (slot, value) ∈ rule.leading ++ rule.trailing) (hv : slot.verb? = some verb) :
    ∃ pattern, rule.pattern = some pattern ∧ (slot, value) ∈ pattern.slots ∧
      ((slot = verb.slot ∧ pattern = verb.pattern value) ∨
        (slot = .customPath ∧ verb = .get ∧ ∃ kind, pattern = .custom kind value)) := by
  simp only [leading, trailing, List.mem_append, RuleSlot.mem_unlessEmpty] at hm
  rcases hm with ((⟨-, rfl, -⟩ | hm) | ⟨-, rfl, -⟩) | ⟨-, rfl, -⟩
  · cases hv
  · cases hp : rule.pattern with
    | none => simp [hp] at hm
    | some pattern =>
      rw [hp] at hm
      refine ⟨pattern, rfl, hm, ?_⟩
      cases pattern with
      | custom kind path =>
        rcases List.mem_append.mp hm with hm | hm
        · obtain ⟨-, rfl, rfl⟩ := RuleSlot.mem_unlessEmpty.mp hm
          cases hv
        · obtain ⟨-, rfl, rfl⟩ := RuleSlot.mem_unlessEmpty.mp hm
          cases hv
          exact .inr ⟨rfl, rfl, kind, rfl⟩
      | _ =>
        obtain ⟨rfl, rfl⟩ := Prod.mk.inj (List.mem_singleton.mp hm)
        cases hv <;> exact .inl ⟨rfl, rfl⟩
  · cases hv
  · cases hv

namespace MethodOptions

theorem deciding?_some {options : MethodOptions} {s : RuleString} (h : options.deciding? = some s) :
    s.owner ∈ options.rules ∧ (s.slot, s.value) ∈ s.owner.leading ++ s.owner.trailing ∧
      s.value.contains "v1" = true := by
  obtain ⟨hr, hs⟩ := mem_strings_iff.mp (List.mem_of_find?_eq_some h)
  have hv := List.find?_some h
  exact ⟨hr, hs, hv⟩

theorem binding_of_deciding? {options : MethodOptions} {s : RuleString} {verb : Verb}
    (hd : options.deciding? = some s) (hv : s.slot.verb? = some verb) :
    options.binding =
      .ok ⟨verb, PathTemplate.ofPath (pathText s.value), options.rules.any (·.body = ['*'])⟩ :=
  binding_eq_ok_iff.mpr ⟨s, hd, hv, rfl, rfl⟩

theorem deciding?_of_append {options : MethodOptions} {before after : List RuleString} {s : RuleString}
    (h : options.strings = before ++ s :: after) (hb : ∀ t ∈ before, t.value.contains "v1" = false)
    (hs : s.value.contains "v1" = true) : options.deciding? = some s := by
  have hnone : before.find? (·.value.contains "v1") = none := by
    rw [List.find?_eq_none]
    exact fun t ht => Bool.eq_false_iff.mp (hb t ht)
  rw [deciding?, h, List.find?_append, hnone, Option.none_or]
  exact List.find?_cons_of_pos hs

theorem own_unversioned {rule : HttpRule} {slot : RuleSlot} {value : Text} {s : RuleString}
    (hv : value.contains "v1" = false) (h : s ∈ (slot.unlessEmpty value).map rule.own) :
    s.value.contains "v1" = false := by
  obtain ⟨⟨slot', value'⟩, hm, rfl⟩ := List.mem_map.mp h
  obtain ⟨-, -, rfl⟩ := RuleSlot.mem_unlessEmpty.mp hm
  exact hv

theorem deciding?_of_verb {deprecated : Bool} {rule : HttpRule} {verb : Verb} {path : Text}
    (hp : rule.pattern = some (verb.pattern path)) (hv : path.contains "v1" = true)
    (hs : rule.selector.contains "v1" = false) :
    deciding? ⟨deprecated, some rule⟩ = some ⟨rule, verb.slot, path⟩ := by
  have hstrings : strings ⟨deprecated, some rule⟩ =
      (RuleSlot.selector.unlessEmpty rule.selector).map rule.own ++ ⟨rule, verb.slot, path⟩ ::
        ((RuleSlot.body.unlessEmpty rule.body).map rule.own ++
          rule.additional.flatMap HttpRule.strings ++ rule.trailing.map rule.own) := by
    simp [strings, HttpRule.strings_eq, HttpRule.leading, hp, Verb.slots_pattern, HttpRule.own]
  exact deciding?_of_append hstrings (fun t ht => own_unversioned hs ht) hv

theorem deciding?_of_selector {deprecated : Bool} {rule : HttpRule}
    (hs : rule.selector.contains "v1" = true) :
    deciding? ⟨deprecated, some rule⟩ = some ⟨rule, .selector, rule.selector⟩ := by
  have hstrings : strings ⟨deprecated, some rule⟩ = [] ++ ⟨rule, .selector, rule.selector⟩ ::
      (((rule.pattern.map (·.slots)).getD [] ++ RuleSlot.body.unlessEmpty rule.body).map rule.own ++
        rule.additional.flatMap HttpRule.strings ++ rule.trailing.map rule.own) := by
    simp [strings, HttpRule.strings_eq, HttpRule.leading, RuleSlot.unlessEmpty_of_versioned hs, HttpRule.own]
  exact deciding?_of_append hstrings (by simp) hs

theorem deciding?_of_customKind {deprecated : Bool} {rule : HttpRule} {kind path : Text}
    (hp : rule.pattern = some (.custom kind path)) (hk : kind.contains "v1" = true)
    (hs : rule.selector.contains "v1" = false) :
    deciding? ⟨deprecated, some rule⟩ = some ⟨rule, .customKind, kind⟩ := by
  have hstrings : strings ⟨deprecated, some rule⟩ =
      (RuleSlot.selector.unlessEmpty rule.selector).map rule.own ++ ⟨rule, .customKind, kind⟩ ::
        ((RuleSlot.customPath.unlessEmpty path ++ RuleSlot.body.unlessEmpty rule.body).map rule.own ++
          rule.additional.flatMap HttpRule.strings ++ rule.trailing.map rule.own) := by
    simp [strings, HttpRule.strings_eq, HttpRule.leading, hp, HttpPattern.slots,
      RuleSlot.unlessEmpty_of_versioned hk, HttpRule.own]
  refine deciding?_of_append hstrings (fun t ht => ?_) hk
  exact own_unversioned hs ht

theorem deciding?_of_customPath {deprecated : Bool} {rule : HttpRule} {kind path : Text}
    (hp : rule.pattern = some (.custom kind path)) (hv : path.contains "v1" = true)
    (hk : kind.contains "v1" = false) (hs : rule.selector.contains "v1" = false) :
    deciding? ⟨deprecated, some rule⟩ = some ⟨rule, .customPath, path⟩ := by
  have hstrings : strings ⟨deprecated, some rule⟩ =
      ((RuleSlot.selector.unlessEmpty rule.selector).map rule.own ++
        (RuleSlot.customKind.unlessEmpty kind).map rule.own) ++ ⟨rule, .customPath, path⟩ ::
        ((RuleSlot.body.unlessEmpty rule.body).map rule.own ++
          rule.additional.flatMap HttpRule.strings ++ rule.trailing.map rule.own) := by
    simp [strings, HttpRule.strings_eq, HttpRule.leading, hp, HttpPattern.slots,
      RuleSlot.unlessEmpty_of_versioned hv, HttpRule.own]
  refine deciding?_of_append hstrings (fun t ht => ?_) hv
  rcases List.mem_append.mp ht with ht | ht
  · exact own_unversioned hs ht
  · exact own_unversioned hk ht

theorem source_of_binding {options : MethodOptions} {b : HttpBinding} (h : options.binding = .ok b) :
    ∃ s pattern, options.deciding? = some s ∧ s.owner ∈ options.rules ∧ s.value.contains "v1" = true ∧
      s.owner.pattern = some pattern ∧ (s.slot, s.value) ∈ pattern.slots ∧ s.slot.verb? = some b.verb ∧
      b.path = PathTemplate.ofPath (pathText s.value) ∧
      ((s.slot = b.verb.slot ∧ pattern = b.verb.pattern s.value) ∨
        (s.slot = .customPath ∧ b.verb = .get ∧ ∃ kind, pattern = .custom kind s.value)) := by
  obtain ⟨s, hs, hverb, hpath, -⟩ := binding_eq_ok_iff.mp h
  obtain ⟨ho, hm, hv⟩ := deciding?_some hs
  obtain ⟨pattern, hp, hslots, hkind⟩ := HttpRule.pattern_of_mem hm hverb
  exact ⟨s, pattern, hs, ho, hv, hp, hslots, hverb, hpath, hkind⟩

/-- A binding has verb and path from one rule, and a body if any rule of the tree sends the whole request. -/
theorem hasBody_of_any_rule :
    (∀ (options : MethodOptions) (b : HttpBinding), options.binding = .ok b →
      (∃ rule ∈ options.rules, b.IsFrom rule) ∧
        (b.hasBody = true ↔ ∃ rule ∈ options.rules, rule.body = ['*'])) ∧
    ∀ (deprecated : Bool) (rule : HttpRule) (verb : Verb) (path : Text),
      rule.pattern = some (verb.pattern path) → path.contains "v1" = true →
      rule.selector.contains "v1" = false → ∀ additional : List HttpRule,
        binding ⟨deprecated, some { rule with additional }⟩ =
          .ok ⟨verb, PathTemplate.ofPath (pathText path),
            decide (rule.body = ['*']) || additional.any fun r => r.tree.any (·.body = ['*'])⟩ := by
  refine ⟨fun options b h => ⟨?_, ?_⟩, fun deprecated rule verb path hp hv hs additional => ?_⟩
  · obtain ⟨s, pattern, -, ho, -, hp, hm, hverb, hpath, -⟩ := source_of_binding h
    exact ⟨s.owner, ho, pattern, hp, _, hm, hverb, hpath⟩
  · obtain ⟨s, -, -, -, hb⟩ := binding_eq_ok_iff.mp h
    simp [hb]
  · have hd : deciding? ⟨deprecated, some { rule with additional }⟩ =
        some ⟨{ rule with additional }, verb.slot, path⟩ := deciding?_of_verb hp hv hs
    have hrules : rules ⟨deprecated, some { rule with additional }⟩ =
        { rule with additional } :: additional.flatMap HttpRule.tree := HttpRule.tree_eq _
    rw [binding_eq, hd, hrules, List.any_cons, List.any_flatMap]
    simp only [verb.verb?_slot]

theorem hasBody_of_any_rule_additional :
    let extra : HttpRule := { pattern := some (.post "/v2/b"), body := "*" }
    let rule : HttpRule := { pattern := some (.get "/v1/a"), additional := [extra] }
    let b : HttpBinding := ⟨.get, PathTemplate.ofPath (pathText "/v1/a"), true⟩
    (binding ⟨true, some rule⟩ = .ok b ∧ (∃ r ∈ rules ⟨true, some rule⟩, b.IsFrom r) ∧
      ∃ r ∈ rules ⟨true, some rule⟩, r.body = ['*']) ∧
    binding ⟨true, some { rule with additional := [extra, rule] }⟩ = .ok b := by
  intro extra rule b
  have hb : binding ⟨true, some rule⟩ = .ok b := by rfl
  obtain ⟨hfrom, hbody⟩ := hasBody_of_any_rule.1 ⟨true, some rule⟩ b hb
  exact ⟨⟨hb, hfrom, hbody.mp rfl⟩,
    hasBody_of_any_rule.2 true rule .get "/v1/a" rfl (by decide) (by decide) [extra, rule]⟩

/-- The whole request is sent because of another rule than the one that gives verb and path. -/
theorem not_body_of_same_rule :
    (¬ ∀ (options : MethodOptions) (b : HttpBinding), options.binding = .ok b →
      ∀ rule ∈ options.rules, b.IsFrom rule → (b.hasBody = true ↔ rule.body = ['*'])) ∧
    ¬ ∀ (rule : HttpRule) (path : Text) (additional : List HttpRule),
      rule.pattern = some (.get path) → path.contains "v1" = true → rule.selector.contains "v1" = false →
        binding ⟨false, some { rule with additional := rule.additional ++ additional }⟩ =
          binding ⟨false, some rule⟩ := by
  let extra : HttpRule := { pattern := some (.post "/v2/b"), body := "*" }
  let rule : HttpRule := { pattern := some (.get "/v1/a") }
  have hboth : binding ⟨false, some { rule with additional := [extra] }⟩ =
      .ok ⟨.get, PathTemplate.ofPath "/v1/a", true⟩ := by rfl
  have hone : binding ⟨false, some rule⟩ = .ok ⟨.get, PathTemplate.ofPath "/v1/a", false⟩ := by rfl
  constructor
  · intro h
    have hfrom : HttpBinding.IsFrom ⟨.get, PathTemplate.ofPath "/v1/a", true⟩
        { rule with additional := [extra] } :=
      ⟨.get "/v1/a", rfl, (.get, "/v1/a"), by decide, rfl, rfl⟩
    have hbody := (h _ _ hboth _ (HttpRule.mem_tree_self _) hfrom).mp rfl
    simp [rule] at hbody
  · intro h
    have heq := hboth.symm.trans ((h rule "/v1/a" [extra] rfl rfl rfl).trans hone)
    simp at heq

theorem binding_ok_iff_of_single {deprecated : Bool} {rule : HttpRule} (hsingle : rule.additional = []) :
    (∃ b, binding ⟨deprecated, some rule⟩ = .ok b) ↔
      rule.selector.contains "v1" = false ∧ ∃ path : Text, path.contains "v1" = true ∧
        ((∃ verb : Verb, rule.pattern = some (verb.pattern path)) ∨
          ∃ kind : Text, kind.contains "v1" = false ∧ rule.pattern = some (.custom kind path)) := by
  constructor
  · rintro ⟨b, h⟩
    obtain ⟨s, pattern, hd, ho, hv, hp, -, hverb, -, hkind⟩ := source_of_binding h
    have howner : s.owner = rule := by
      simpa [rules, HttpRule.tree_eq, hsingle] using ho
    have hselector : rule.selector.contains "v1" = false := by
      cases hs : rule.selector.contains "v1" with
      | false => rfl
      | true =>
        rw [Option.some.inj (hd.symm.trans (deciding?_of_selector hs))] at hverb
        cases hverb
    refine ⟨hselector, s.value, hv, ?_⟩
    rw [howner] at hp
    rcases hkind with ⟨-, rfl⟩ | ⟨-, -, kind, rfl⟩
    · exact .inl ⟨b.verb, hp⟩
    · refine .inr ⟨kind, ?_, hp⟩
      cases hk : kind.contains "v1" with
      | false => rfl
      | true =>
        rw [Option.some.inj (hd.symm.trans (deciding?_of_customKind hp hk hselector))] at hverb
        cases hverb
  · rintro ⟨hs, path, hv, ⟨verb, hp⟩ | ⟨kind, hk, hp⟩⟩
    · exact ⟨_, binding_of_deciding? (deciding?_of_verb hp hv hs) verb.verb?_slot⟩
    · exact ⟨_, binding_of_deciding? (deciding?_of_customPath hp hv hk hs) rfl⟩

/-- The verb of a binding is that of a versioned pattern of the tree, unless the path of a custom pattern
decides and the tree holds no versioned `get`. -/
theorem verb_of_pattern_or_custom (options : MethodOptions) :
    (∀ b, options.binding = .ok b →
      ((∃ rule ∈ options.rules, ∃ path : Text,
          rule.pattern = some (b.verb.pattern path) ∧ path.contains "v1" = true) ↔
        ¬ ((∃ s, options.deciding? = some s ∧ s.slot = .customPath) ∧
          ∀ rule ∈ options.rules, ∀ path : Text,
            rule.pattern = some (.get path) → path.contains "v1" = false))) ∧
    (∀ s, options.deciding? = some s → s.slot = .customPath → ∃ b, options.binding = .ok b ∧ b.verb = .get) ∧
    ∀ rule, options.http = some rule → rule.additional = [] →
      ((∃ b, options.binding = .ok b) ↔
        rule.selector.contains "v1" = false ∧ ∃ path : Text, path.contains "v1" = true ∧
          ((∃ verb : Verb, rule.pattern = some (verb.pattern path)) ∨
            ∃ kind : Text, kind.contains "v1" = false ∧ rule.pattern = some (.custom kind path))) := by
  refine ⟨fun b h => ?_, fun s hd hslot => ?_, fun rule hrule hsingle => ?_⟩
  · obtain ⟨s, pattern, hd, ho, hv, hp, -, -, -, hkind⟩ := source_of_binding h
    constructor
    · rintro ⟨rule, hr, path, hpath, hpv⟩ ⟨⟨s', hd', hcustom⟩, hget⟩
      have hs : s' = s := Option.some.inj (hd'.symm.trans hd)
      have hverb : b.verb = .get := by
        rcases hkind with ⟨hslot, -⟩ | ⟨-, hverb, -⟩
        · rw [← hs, hcustom] at hslot
          exact absurd hslot.symm b.verb.slot_ne_customPath
        · exact hverb
      rw [hverb] at hpath
      rw [hget rule hr path hpath] at hpv
      cases hpv
    · intro hnot
      rcases hkind with ⟨-, rfl⟩ | ⟨hslot, hverb, -⟩
      · exact ⟨s.owner, ho, s.value, hp, hv⟩
      · refine Classical.byContradiction fun hnone => hnot ⟨⟨s, hd, hslot⟩, fun rule hr path hpath => ?_⟩
        refine Bool.eq_false_iff.mpr fun hpv => hnone ⟨rule, hr, path, ?_, hpv⟩
        rw [hverb]
        exact hpath
  · exact ⟨_, binding_of_deciding? hd (hslot ▸ rfl), rfl⟩
  · obtain ⟨deprecated, http⟩ := options
    cases hrule
    exact binding_ok_iff_of_single hsingle

theorem verb_of_pattern_or_custom_ping :
    let rule : HttpRule := { pattern := some (.custom "HEAD" "/v1/ping") }
    let options : MethodOptions := ⟨false, some rule⟩
    let b : HttpBinding := ⟨.get, PathTemplate.ofPath "/v1/ping", false⟩
    (options.binding = .ok b ∧ ¬ ∃ r ∈ options.rules, ∃ path : Text,
      r.pattern = some (b.verb.pattern path) ∧ path.contains "v1" = true) ∧
    (∃ b, options.binding = .ok b ∧ b.verb = .get) ∧ rule.selector.contains "v1" = false := by
  intro rule options b
  have hb : options.binding = .ok b := by rfl
  have hd : options.deciding? = some ⟨rule, .customPath, "/v1/ping"⟩ := by rfl
  have hget : ∀ r ∈ options.rules, ∀ path : Text,
      r.pattern = some (.get path) → path.contains "v1" = false := by
    intro r hr path hp
    rw [List.mem_singleton.mp hr] at hp
    cases hp
  obtain ⟨hverb, hcustom, hrule⟩ := verb_of_pattern_or_custom options
  refine ⟨⟨hb, fun h => ?_⟩, hcustom _ hd rfl, ((hrule rule rfl rfl).mp ⟨b, hb⟩).1⟩
  exact (hverb b hb).mp h ⟨⟨_, hd, rfl⟩, hget⟩

/-- A rule whose only pattern is a custom one gives a binding with `get`. -/
theorem not_verb_of_pattern :
    (¬ ∀ (options : MethodOptions) (b : HttpBinding), options.binding = .ok b →
      ∃ rule ∈ options.rules, ∃ path : Text,
        rule.pattern = some (b.verb.pattern path) ∧ path.contains "v1" = true) ∧
    ¬ ∀ (rule : HttpRule) (kind path : Text), rule.pattern = some (.custom kind path) →
      rule.additional = [] → ∀ b, binding ⟨false, some rule⟩ ≠ .ok b := by
  let rule : HttpRule := { pattern := some (.custom "HEAD" "/v1/ping") }
  have hb : binding ⟨false, some rule⟩ = .ok ⟨.get, PathTemplate.ofPath "/v1/ping", false⟩ := by rfl
  constructor
  · intro h
    obtain ⟨r, hr, path, hp, -⟩ := h _ _ hb
    rw [List.mem_singleton.mp hr] at hp
    cases hp
  · intro h
    exact h rule _ _ rfl rfl _ hb

end MethodOptions

end SwiftConnections
