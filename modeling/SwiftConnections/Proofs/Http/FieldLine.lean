import SwiftConnections.Http.Binding
import SwiftConnections.Proofs.Http.QuotedValue
import SwiftConnections.Proofs.Http.RuleStrings

namespace SwiftConnections

def fieldLead (depth number : Nat) : Text :=
  List.replicate (2 * depth) ' ' ++ (Text.ofNat number ++ ": ")

theorem fieldLine_eq (depth number : Nat) (value : Text) :
    fieldLine depth number value = fieldLead depth number ++ quoted value := by
  simp [fieldLine, fieldLead, lineAt]

theorem RuleSlot.tag_digits (slot : RuleSlot) : ∀ c ∈ Text.ofNat slot.tag, c.isDigit := by
  have hall : (Text.ofNat slot.tag).all Char.isDigit = true := by cases slot <;> decide
  exact List.all_eq_true.mp hall

theorem not_mem_fieldLead {depth : Nat} {slot : RuleSlot} {c : Char} (hspace : c ≠ ' ')
    (hcolon : c ≠ ':') (hdigit : c ∉ Text.ofNat slot.tag) : c ∉ fieldLead depth slot.tag := by
  intro hm
  rcases List.mem_append.mp hm with hm | hm
  · exact hspace (List.eq_of_mem_replicate hm)
  · rcases List.mem_append.mp hm with hm | hm
    · exact hdigit hm
    · simp [hspace, hcolon] at hm

theorem not_mem_fieldLead_of_not_isDigit {depth : Nat} {slot : RuleSlot} {c : Char} (hspace : c ≠ ' ')
    (hcolon : c ≠ ':') (hdigit : c.isDigit = false) : c ∉ fieldLead depth slot.tag :=
  not_mem_fieldLead hspace hcolon fun hm => by simp [slot.tag_digits c hm] at hdigit

theorem lineFeed_not_mem_fieldLine (depth : Nat) (slot : RuleSlot) (value : Text) :
    '\n' ∉ fieldLine depth slot.tag value := by
  rw [fieldLine_eq, List.mem_append, not_or]
  exact ⟨not_mem_fieldLead_of_not_isDigit (by decide) (by decide) (by decide), lineFeed_not_mem_quoted value⟩

theorem fieldLine_getLast? (depth number : Nat) (value : Text) :
    (fieldLine depth number value).getLast? = some '"' := by
  rw [fieldLine_eq, quoted_eq, ← List.append_assoc, ← List.append_assoc, List.getLast?_concat]

theorem fieldLine_contains_version (depth : Nat) (slot : RuleSlot) (value : Text) :
    (fieldLine depth slot.tag value).contains "v1" = value.contains "v1" := by
  have hlead : 'v' ∉ fieldLead depth slot.tag :=
    not_mem_fieldLead_of_not_isDigit (by decide) (by decide) (by decide)
  have hquoted := infix_quoted_iff (c := 'v') (p := ['1']) (t := value) (by simp [isUnescaped]) (by decide)
  rw [Bool.eq_iff_iff, Text.contains_iff_infix, Text.contains_iff_infix, fieldLine_eq]
  exact (Text.cons_infix_append_iff hlead).trans hquoted

/-- The line says that the whole request is the body exactly if it is the line of a body `*`. -/
theorem fieldLine_contains_wholeBody (depth : Nat) (slot : RuleSlot) (value : Text) :
    (fieldLine depth slot.tag value).contains "7: \"*\"" = true ↔ slot = .body ∧ value = ['*'] := by
  have hmarker : ("7: \"*\"" : Text) = '7' :: ':' :: ' ' :: ['"', '*', '"'] := by simp
  have hspace : [' ', '"', '*', '"'] <:+: ['7', ':', ' ', '"', '*', '"'] := ⟨['7', ':'], [], rfl⟩
  have hquoted : ¬ '7' :: ':' :: ' ' :: ['"', '*', '"'] <:+: quoted value := fun h =>
    not_space_quote_infix_quoted '*' ['"'] value (hspace.trans h)
  rw [Text.contains_iff_infix, fieldLine_eq, hmarker]
  by_cases hslot : slot = .body
  · subst hslot
    have hpad : '7' ∉ List.replicate (2 * depth) ' ' := fun h => by simp at h
    have hrest : '7' ∉ [':', ' '] := by decide
    have hlead : fieldLead depth RuleSlot.body.tag =
        List.replicate (2 * depth) ' ' ++ '7' :: ([':', ' ']) := rfl
    rw [hlead, List.append_assoc, Text.cons_infix_append_iff hpad, List.cons_append, List.infix_cons_iff,
      Text.cons_infix_append_iff hrest, List.cons_prefix_cons, List.cons_append, List.cons_prefix_cons,
      List.cons_append, List.cons_prefix_cons, List.nil_append, star_prefix_quoted_iff]
    simp [hquoted]
  · have hlead : '7' ∉ fieldLead depth slot.tag :=
      not_mem_fieldLead (by decide) (by decide) (by cases slot <;> first | decide | contradiction)
    rw [Text.cons_infix_append_iff hlead]
    simp [hquoted, hslot]

theorem RuleSlot.toTag?_tag (slot : RuleSlot) : (Text.ofNat slot.tag).toTag? = some slot.tag := by
  cases slot <;> decide

theorem fieldLine_trim (depth : Nat) (slot : RuleSlot) (value : Text) :
    (fieldLine depth slot.tag value).trim = Text.ofNat slot.tag ++ (": " ++ quoted value) := by
  have hstart : (fieldLine depth slot.tag value).dropWhile Text.isBlank =
      Text.ofNat slot.tag ++ (": " ++ quoted value) := by
    rw [fieldLine, lineAt, List.dropWhile_append_of_pos, List.append_assoc]
    · cases slot <;> rfl
    · intro c hc
      rw [List.eq_of_mem_replicate hc]
      decide
  rw [Text.trim, Text.dropBothWhile, hstart, Text.dropEndWhile, quoted_eq]
  simp [Text.isBlank]

theorem fieldLine_cut? (slot : RuleSlot) (value : Text) :
    Text.cut? (Text.ofNat slot.tag ++ (": " ++ quoted value)) ": " =
      some (Text.ofNat slot.tag, quoted value) := by
  have hcolon : ':' ∉ Text.ofNat slot.tag := fun h => by simpa using slot.tag_digits _ h
  exact Text.cut?_append (p := [' ']) hcolon

end SwiftConnections
