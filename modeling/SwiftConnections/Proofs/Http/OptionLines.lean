import SwiftConnections.Proofs.Http.FieldLine
import SwiftConnections.Proofs.Text.Lines

namespace SwiftConnections

/-- A line without a value: it opens or closes a nested field, or is a flag. -/
def IsMark (t : Text) : Prop :=
  ∀ c ∈ ['v', '"', '\n', '\r'], c ∉ t

instance : DecidablePred IsMark :=
  fun t => List.decidableBAll (· ∉ t) _

theorem IsMark.lineAt {t : Text} (h : IsMark t) (depth : Nat) : IsMark (lineAt depth t) := by
  intro c hc hm
  rcases List.mem_append.mp hm with hm | hm
  · rw [List.eq_of_mem_replicate hm] at hc
    simp at hc
  · exact h c hc hm

/-- The lines carry the strings in order, with marks between them. -/
inductive Shows : List Text → List RuleString → Prop
  | nil : Shows [] []
  | mark {t lines strings} (h : IsMark t) : Shows lines strings → Shows (t :: lines) strings
  | string {lines strings} (depth : Nat) (s : RuleString) :
    Shows lines strings → Shows (fieldLine depth s.slot.tag s.value :: lines) (s :: strings)

namespace Shows

variable {lines lines' : List Text} {strings strings' : List RuleString}

theorem append (h : Shows lines strings) (h' : Shows lines' strings') :
    Shows (lines ++ lines') (strings ++ strings') := by
  induction h with
  | nil => exact h'
  | mark hm _ ih => exact .mark hm ih
  | string depth s _ ih => exact .string depth s ih

theorem group {depth number : Nat} (hn : IsMark (Text.ofNat number ++ " \x7b"))
    (h : Shows lines strings) : Shows (groupLines depth number lines) strings := by
  have hclose : Shows [lineAt depth "\x7d"] [] := .mark (IsMark.lineAt (by decide) depth) .nil
  have hbody := h.append hclose
  rw [List.append_nil] at hbody
  exact .mark (hn.lineAt depth) hbody

theorem flatMap {rules : List HttpRule} {f : HttpRule → List Text} {g : HttpRule → List RuleString}
    (h : ∀ rule ∈ rules, Shows (f rule) (g rule)) : Shows (rules.flatMap f) (rules.flatMap g) := by
  induction rules with
  | nil => exact .nil
  | cons rule rules ih =>
    exact (h rule List.mem_cons_self).append (ih fun r hr => h r (List.mem_cons_of_mem rule hr))

theorem optional (owner : HttpRule) (slot : RuleSlot) (depth : Nat) (value : Text) :
    Shows (optionalFieldLine depth slot.tag value) ((slot.unlessEmpty value).map owner.own) := by
  unfold optionalFieldLine RuleSlot.unlessEmpty
  split
  · exact .nil
  · exact .string depth ⟨owner, slot, value⟩ .nil

/-- No value can break its line in two. -/
theorem lines_unlines (h : Shows lines strings) : (Text.unlines lines).lines = lines := by
  apply Text.lines_unlines
  induction h with
  | nil => simp
  | mark hm _ ih =>
    refine List.forall_mem_cons.mpr ⟨⟨hm _ (by simp), fun hr => ?_⟩, ih⟩
    exact hm '\r' (by simp) (List.mem_of_getLast? hr)
  | string depth s _ ih =>
    refine List.forall_mem_cons.mpr ⟨⟨lineFeed_not_mem_fieldLine depth s.slot s.value, ?_⟩, ih⟩
    simp [fieldLine_getLast?]

/-- The first line that mentions the version is the line of the first string that does. -/
theorem find?_version (h : Shows lines strings) :
    (lines.find? (·.contains "v1") = none ∧ strings.find? (·.value.contains "v1") = none) ∨
      ∃ depth s, lines.find? (·.contains "v1") = some (fieldLine depth s.slot.tag s.value) ∧
        strings.find? (·.value.contains "v1") = some s := by
  induction h with
  | nil => exact .inl ⟨rfl, rfl⟩
  | @mark t lines strings hm _ ih =>
    have ht : ¬ Text.contains t "v1" = true := by
      rw [Text.contains_iff_infix]
      exact Text.not_cons_infix (hm 'v' (by simp))
    rw [List.find?_cons_of_neg (p := fun t : Text => t.contains "v1") ht]
    exact ih
  | @string lines strings depth s _ ih =>
    have hline := fieldLine_contains_version depth s.slot s.value
    by_cases hf : s.value.contains "v1" = true
    · exact .inr ⟨depth, s, List.find?_cons_of_pos (hline.trans hf), List.find?_cons_of_pos hf⟩
    · have hline' : ¬ (fieldLine depth s.slot.tag s.value).contains "v1" = true := by rwa [hline]
      rw [List.find?_cons_of_neg (p := fun t : Text => t.contains "v1") hline',
        List.find?_cons_of_neg (p := fun s : RuleString => s.value.contains "v1") hf]
      exact ih

theorem any_wholeBody (h : Shows lines strings) :
    lines.any (·.contains "7: \"*\"") = strings.any fun s => s.slot = .body && s.value = ['*'] := by
  induction h with
  | nil => rfl
  | @mark t lines strings hm _ ih =>
    have ht : Text.contains t "7: \"*\"" = false := by
      rw [Bool.eq_false_iff, ne_eq, Text.contains_iff_infix]
      exact fun h => hm '"' (by simp) (h.subset (by simp))
    rw [List.any_cons, ht, Bool.false_or, ih]
  | @string lines strings depth s _ ih =>
    have hf : (fieldLine depth s.slot.tag s.value).contains "7: \"*\"" =
        (decide (s.slot = .body) && decide (s.value = ['*'])) := by
      rw [Bool.eq_iff_iff, fieldLine_contains_wholeBody]
      simp
    rw [List.any_cons, List.any_cons, hf, ih]

end Shows

theorem HttpPattern.shows (owner : HttpRule) (depth : Nat) (pattern : HttpPattern) :
    Shows (pattern.textLines depth) (pattern.slots.map owner.own) := by
  cases pattern with
  | get path => exact .string depth ⟨owner, .get, path⟩ .nil
  | put path => exact .string depth ⟨owner, .put, path⟩ .nil
  | post path => exact .string depth ⟨owner, .post, path⟩ .nil
  | delete path => exact .string depth ⟨owner, .delete, path⟩ .nil
  | patch path => exact .string depth ⟨owner, .patch, path⟩ .nil
  | custom kind path =>
    rw [HttpPattern.slots, List.map_append]
    exact .group (by decide) (.append (.optional owner .customKind (depth + 1) kind)
      (.optional owner .customPath (depth + 1) path))

theorem HttpRule.additionalLines_eq (depth : Nat) (rules : List HttpRule) :
    additionalLines depth rules = rules.flatMap fun r => groupLines depth 11 (r.textLines (depth + 1)) := by
  induction rules with
  | nil => rfl
  | cons rule rules ih => rw [additionalLines, ih, List.flatMap_cons]

theorem HttpRule.shows (rule : HttpRule) (depth : Nat) : Shows (rule.textLines depth) rule.strings := by
  induction rule using HttpRule.induct generalizing depth with
  | step rule ih =>
    have hpattern : Shows ((rule.pattern.map (·.textLines depth)).getD [])
        (((rule.pattern.map (·.slots)).getD []).map rule.own) := by
      cases rule.pattern with
      | none => exact .nil
      | some pattern => exact pattern.shows rule depth
    have hinner : Shows (additionalLines depth rule.additional) (rule.additional.flatMap strings) := by
      rw [additionalLines_eq]
      exact .flatMap fun r hr => .group (by decide) (ih r hr (depth + 1))
    have hselector := Shows.optional rule .selector depth rule.selector
    have hbody := Shows.optional rule .body depth rule.body
    have hresponse := Shows.optional rule .responseBody depth rule.responseBody
    have h := (((hselector.append hpattern).append hbody).append hinner).append hresponse
    rw [strings_eq, leading, List.map_append, List.map_append]
    obtain ⟨selector, pattern, body, additional, responseBody⟩ := rule
    rw [textLines]
    exact h

theorem MethodOptions.shows (options : MethodOptions) : Shows options.textLines options.strings := by
  have hflag : Shows (if options.deprecated then [("deprecated: true" : Text)] else []) [] := by
    split
    · exact .mark (by decide) .nil
    · exact .nil
  have hrule : Shows ((options.http.map fun rule => groupLines 0 httpRuleNumber (rule.textLines 1)).getD [])
      options.strings := by
    unfold MethodOptions.strings
    cases options.http with
    | none => exact .nil
    | some rule => exact .group (by decide) (rule.shows 1)
  exact hflag.append hrule

end SwiftConnections
