import SwiftConnections.Proofs.Http.OptionLines

namespace SwiftConnections

/-- The path that a value gives: what stands between its quotes, up to a colon with a blank behind it. -/
def pathText (value : Text) : Text :=
  Text.dropBothWhile (((quoted value).cut? ": ").map (·.1) |>.getD (quoted value)) (· = '"')

/-- The slots whose path is read as that of a verb. The path of a custom pattern has the number of `get`. -/
def RuleSlot.verb? : RuleSlot → Option Verb
  | get | customPath => some .get
  | post => some .post
  | delete => some .delete
  | _ => none

namespace MethodOptions

/-- The first string of the rule that mentions the version `v1`. -/
def deciding? (options : MethodOptions) : Option RuleString :=
  options.strings.find? (·.value.contains "v1")

/-- The binding that the strings of the rule give. -/
def reading (options : MethodOptions) : Except BindingError HttpBinding :=
  match options.deciding? with
  | none => .error .noVersionedPath
  | some s =>
    let path := PathTemplate.ofPath (pathText s.value)
    let hasBody := options.rules.any (·.body = ['*'])
    match s.slot.tag with
    | 2 => .ok ⟨.get, path, hasBody⟩
    | 4 => .ok ⟨.post, path, hasBody⟩
    | 5 => .ok ⟨.delete, path, hasBody⟩
    | tag => .error (.unrecognizedVerb tag)

end MethodOptions

theorem pathText_of_plain {value : Text} (h : ∀ c ∈ value, isUnescaped c)
    (hcolon : value.contains ": " = false) : pathText value = value := by
  have hquote : ∀ c ∈ value, c ≠ '"' := by
    rintro c hc rfl
    simpa [isUnescaped] using h _ hc
  have hcut : (quoted value).cut? ": " = none := by
    rw [Text.cut?_eq_none_iff, ← hcolon]
    exact contains_quoted (c := ':') (p := [' ']) (by simp [isUnescaped]) (by decide)
  have hrest : ∀ t : Text, (∀ c ∈ t, c ∈ value) → t.dropWhile (fun c => decide (c = '"')) = t := by
    intro t ht
    cases t with
    | nil => rfl
    | cons c t => simp [hquote c (ht c List.mem_cons_self)]
  rw [pathText, hcut, Option.map_none, Option.getD_none, quoted_of_unescaped h, Text.dropBothWhile,
    Text.dropEndWhile, List.singleton_append, List.dropWhile_cons_of_pos (by decide)]
  cases value with
  | nil => rfl
  | cons c rest =>
    have hstart : (c :: rest ++ ['"']).dropWhile (fun c => decide (c = '"')) = c :: rest ++ ['"'] := by
      simp [hquote c List.mem_cons_self]
    rw [hstart, List.reverse_append, List.reverse_singleton, List.singleton_append,
      List.dropWhile_cons_of_pos (by decide), hrest _ fun c => List.mem_reverse.mp, List.reverse_reverse]

theorem RuleSlot.ofTag?_tag (slot : RuleSlot) : Verb.ofTag? slot.tag = slot.verb? := by
  cases slot <;> rfl

theorem HttpBinding.ofText_of_fieldLine {text value : Text} {depth : Nat} {slot : RuleSlot}
    (h : text.lines.find? (·.contains "v1") = some (fieldLine depth slot.tag value)) :
    HttpBinding.ofText text =
      match slot.verb? with
      | some verb =>
        .ok ⟨verb, PathTemplate.ofPath (pathText value), text.lines.any (·.contains "7: \"*\"")⟩
      | none => .error (.unrecognizedVerb slot.tag) := by
  simp only [ofText, h, fieldLine_trim, fieldLine_cut?, slot.toTag?_tag, slot.ofTag?_tag]
  cases slot.verb? <;> rfl

theorem HttpRule.wholeBody_mem_iff {rule : HttpRule} :
    (RuleSlot.body, ['*']) ∈ rule.leading ++ rule.trailing ↔ rule.body = ['*'] := by
  have hpattern : (RuleSlot.body, ['*']) ∉ (rule.pattern.map (·.slots)).getD [] := by
    cases rule.pattern with
    | none => simp
    | some pattern => cases pattern <;> simp [HttpPattern.slots, RuleSlot.unlessEmpty]
  simp only [leading, trailing, RuleSlot.unlessEmpty, List.mem_append]
  grind

namespace MethodOptions

theorem any_wholeBody (options : MethodOptions) :
    (options.strings.any fun s => s.slot = .body && s.value = ['*']) =
      options.rules.any (·.body = ['*']) := by
  rw [Bool.eq_iff_iff, List.any_eq_true, List.any_eq_true]
  constructor
  · rintro ⟨⟨owner, slot, value⟩, hs, heq⟩
    simp only [Bool.and_eq_true, decide_eq_true_eq] at heq
    obtain ⟨rfl, rfl⟩ := heq
    obtain ⟨ho, hm⟩ := mem_strings_iff.mp hs
    exact ⟨owner, ho, by simpa using HttpRule.wholeBody_mem_iff.mp hm⟩
  · rintro ⟨rule, hr, hb⟩
    have hm := HttpRule.wholeBody_mem_iff.mpr (of_decide_eq_true hb)
    exact ⟨⟨rule, .body, ['*']⟩, mem_strings_iff.mpr ⟨hr, hm⟩, by simp⟩

theorem binding_eq (options : MethodOptions) : options.binding =
    match options.deciding? with
    | none => .error .noVersionedPath
    | some s =>
      match s.slot.verb? with
      | some verb =>
        .ok ⟨verb, PathTemplate.ofPath (pathText s.value), options.rules.any (·.body = ['*'])⟩
      | none => .error (.unrecognizedVerb s.slot.tag) := by
  have hlines : options.text.lines = options.textLines := options.shows.lines_unlines
  have hbody := options.shows.any_wholeBody.trans options.any_wholeBody
  rcases options.shows.find?_version with ⟨hl, hs⟩ | ⟨depth, s, hl, hs⟩
  · rw [binding, HttpBinding.ofText, hlines, hl, deciding?, hs]
  · rw [binding, HttpBinding.ofText_of_fieldLine (hlines ▸ hl), deciding?, hs, hlines, hbody]

theorem binding_eq_ok_iff {options : MethodOptions} {b : HttpBinding} :
    options.binding = .ok b ↔
      ∃ s, options.deciding? = some s ∧ s.slot.verb? = some b.verb ∧
        b.path = PathTemplate.ofPath (pathText s.value) ∧
        b.hasBody = options.rules.any (·.body = ['*']) := by
  obtain ⟨verb, path, hasBody⟩ := b
  rw [binding_eq]
  cases options.deciding? with
  | none => simp
  | some s =>
    cases hv : s.slot.verb? with
    | none => simp [hv]
    | some verb' =>
      simp only [hv, Except.ok.injEq, HttpBinding.mk.injEq, Option.some.injEq, exists_eq_left']
      grind

/-- Scanning the lines of the text comes to the same as reading the strings of the rule. -/
theorem binding_eq_reading (options : MethodOptions) :
    options.binding = options.reading ∧
      ∀ value : Text, '"' ∉ value → '\\' ∉ value → '\n' ∉ value → value.contains ": " = false →
        pathText value = value := by
  refine ⟨?_, fun value hq hb hl hc => pathText_of_plain (fun c hm => ?_) hc⟩
  · rw [binding_eq, reading]
    cases options.deciding? with
    | none => rfl
    | some s =>
      obtain ⟨owner, slot, value⟩ := s
      cases slot <;> rfl
  · have hcq : c ≠ '"' := fun e => hq (e ▸ hm)
    have hcb : c ≠ '\\' := fun e => hb (e ▸ hm)
    have hcl : c ≠ '\n' := fun e => hl (e ▸ hm)
    simp [isUnescaped, hcq, hcb, hcl]

theorem binding_eq_reading_nested :
    binding ⟨true, some {
        selector := "lnrpc.Lightning.SendCoins"
        pattern := some (.custom "HEAD" "/ping")
        additional := [{ pattern := some (.post "/v1/a: \"b\""), body := "*" }] }⟩ =
      .ok ⟨.post, PathTemplate.ofPath "/v1/a", true⟩ ∧
      pathText "/v1/a" = "/v1/a" :=
  ⟨(binding_eq_reading _).1.trans rfl,
    (binding_eq_reading {}).2 "/v1/a" (by decide) (by decide) (by decide) (by decide)⟩

end MethodOptions

end SwiftConnections
