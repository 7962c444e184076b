import SwiftConnections.Proofs.Http.RuleStrings
import SwiftConnections.Proto.RequestFields

namespace SwiftConnections

namespace Field

theorem texts_append (n : Nat) (fields fields' : List Field) :
    texts n (fields ++ fields') = texts n fields ++ texts n fields' :=
  List.filterMap_append

theorem texts_ofNonempty_of_ne {n m : Nat} (h : m ≠ n) (value : Text) : texts n (ofNonempty m value) = [] := by
  unfold ofNonempty
  split <;> simp [texts, h]

/-- A text that is not written is read as the empty one. -/
theorem text?_ofNonempty {n : Nat} {before after : List Field} {value : Text}
    (hb : texts n before = []) (ha : texts n after = []) :
    (text? n (before ++ ofNonempty n value ++ after)).getD [] = value := by
  rw [text?, texts_append, texts_append, hb, ha, List.nil_append, List.append_nil, ofNonempty]
  split
  next h => rw [h]; rfl
  next => simp [texts]

end Field

namespace HttpPattern

theorem next_field (pattern : HttpPattern) : next none pattern.field = some pattern := by
  cases pattern with
  | custom kind path =>
    have hkind : (Field.text? 1 (Field.ofNonempty 1 kind ++ Field.ofNonempty 2 path)).getD [] = kind :=
      @Field.text?_ofNonempty 1 [] _ kind rfl (Field.texts_ofNonempty_of_ne (by decide) path)
    have hpath : (Field.text? 2 (Field.ofNonempty 1 kind ++ Field.ofNonempty 2 path)).getD [] = path := by
      rw [← List.append_nil (Field.ofNonempty 1 kind ++ _)]
      exact Field.text?_ofNonempty (Field.texts_ofNonempty_of_ne (by decide) kind) rfl
    simp only [field, next, hkind, hpath]
  | _ => rfl

theorem texts_pattern {n : Nat} (h : n ∉ [2, 3, 4, 5, 6]) (pattern : Option HttpPattern) :
    Field.texts n (pattern.map (·.field)).toList = [] := by
  cases pattern with
  | none => rfl
  | some pattern => cases pattern <;> simp_all [field, Field.texts, eq_comm]

theorem next_pattern (pattern : Option HttpPattern) :
    (pattern.map (·.field)).toList.foldl next none = pattern := by
  cases pattern with
  | none => rfl
  | some pattern => exact pattern.next_field

/-- Only fields with the number of a verb bear on the pattern. -/
theorem next_ofNonempty {n : Nat} (h : n ∉ [2, 3, 4, 5, 6]) (pattern : Option HttpPattern) (value : Text) :
    (Field.ofNonempty n value).foldl next pattern = pattern := by
  unfold Field.ofNonempty
  split
  next => rfl
  next =>
    simp only [List.foldl_cons, List.foldl_nil, next]
    split <;> simp_all

end HttpPattern

namespace HttpRule

theorem fields_eq (rule : HttpRule) : rule.fields =
    Field.ofNonempty 1 rule.selector ++ (rule.pattern.map (·.field)).toList ++ Field.ofNonempty 7 rule.body ++
      additionalFields rule.additional ++ Field.ofNonempty 12 rule.responseBody := by
  obtain ⟨selector, pattern, body, additional, responseBody⟩ := rule
  rw [fields]

theorem additionalFields_eq (rules : List HttpRule) :
    additionalFields rules = rules.map fun rule => .message 11 rule.fields := by
  induction rules with
  | nil => rfl
  | cons rule rules ih => rw [additionalFields, ih, List.map_cons]

theorem texts_additionalFields (n : Nat) (rules : List HttpRule) :
    Field.texts n (additionalFields rules) = [] := by
  simp [additionalFields_eq, Field.texts]

theorem next_additionalFields (pattern : Option HttpPattern) (rules : List HttpRule) :
    (additionalFields rules).foldl HttpPattern.next pattern = pattern := by
  induction rules with
  | nil => rfl
  | cons rule rules ih => exact ih

theorem pattern_of_fields (rule : HttpRule) : rule.fields.foldl HttpPattern.next none = rule.pattern := by
  have hselector := HttpPattern.next_ofNonempty (n := 1) (by decide) none rule.selector
  have hbody := HttpPattern.next_ofNonempty (n := 7) (by decide) rule.pattern rule.body
  have hresponse := HttpPattern.next_ofNonempty (n := 12) (by decide) rule.pattern rule.responseBody
  rw [fields_eq, List.foldl_append, List.foldl_append, List.foldl_append, List.foldl_append, hselector,
    HttpPattern.next_pattern, hbody, next_additionalFields, hresponse]

theorem additionalOfFields_eq (fields : List Field) :
    additionalOfFields fields = fields.filterMap additionalOfField? := by
  induction fields with
  | nil => rfl
  | cons field fields ih =>
    rw [additionalOfFields, ih]
    cases h : additionalOfField? field <;> simp [h]

theorem additionalOfFields_ofNonempty (n : Nat) (value : Text) :
    (Field.ofNonempty n value).filterMap additionalOfField? = [] := by
  unfold Field.ofNonempty
  split <;> rfl

theorem additionalOfFields_pattern (pattern : Option HttpPattern) :
    (pattern.map (·.field)).toList.filterMap additionalOfField? = [] := by
  cases pattern with
  | none => rfl
  | some pattern => cases pattern <;> rfl

theorem additionalOfFields_additionalFields {rules : List HttpRule}
    (h : ∀ rule ∈ rules, ofFields rule.fields = rule) :
    (additionalFields rules).filterMap additionalOfField? = rules := by
  induction rules with
  | nil => rfl
  | cons rule rules ih =>
    have hread : additionalOfField? (.message 11 rule.fields) = some rule :=
      congrArg some (h rule List.mem_cons_self)
    rw [additionalFields, List.filterMap_cons_some hread, ih fun r hr => h r (List.mem_cons_of_mem rule hr)]

/-- The fields of a rule give back the rule. -/
theorem ofFields_fields (rule : HttpRule) : ofFields rule.fields = rule := by
  induction rule using induct with
  | step rule ih =>
    have hpattern : ∀ n ∉ [2, 3, 4, 5, 6], Field.texts n (rule.pattern.map (·.field)).toList = [] :=
      fun n hn => HttpPattern.texts_pattern hn rule.pattern
    have hselector : (Field.text? 1 rule.fields).getD [] = rule.selector := by
      rw [fields_eq, List.append_assoc, List.append_assoc, List.append_assoc]
      refine @Field.text?_ofNonempty 1 [] _ _ rfl ?_
      simp [Field.texts_append, hpattern, texts_additionalFields, Field.texts_ofNonempty_of_ne]
    have hbody : (Field.text? 7 rule.fields).getD [] = rule.body := by
      rw [fields_eq, List.append_assoc _ (additionalFields _)]
      refine Field.text?_ofNonempty ?_ ?_
      · simp [Field.texts_append, hpattern, Field.texts_ofNonempty_of_ne]
      · simp [Field.texts_append, texts_additionalFields, Field.texts_ofNonempty_of_ne]
    have hresponse : (Field.text? 12 rule.fields).getD [] = rule.responseBody := by
      rw [fields_eq, ← List.append_nil (_ ++ Field.ofNonempty 12 _)]
      refine Field.text?_ofNonempty ?_ rfl
      simp [Field.texts_append, hpattern, texts_additionalFields, Field.texts_ofNonempty_of_ne]
    have hadditional : additionalOfFields rule.fields = rule.additional := by
      rw [additionalOfFields_eq, fields_eq, List.filterMap_append, List.filterMap_append, List.filterMap_append,
        List.filterMap_append, additionalOfFields_ofNonempty, additionalOfFields_pattern,
        additionalOfFields_ofNonempty, additionalOfFields_ofNonempty, additionalOfFields_additionalFields ih]
      simp
    rw [ofFields, ofFieldsWith, hselector, rule.pattern_of_fields, hbody, hadditional, hresponse]
    cases rule
    rfl

end HttpRule

end SwiftConnections
