import Mathlib.Data.List.DropRight
import SwiftConnections.Text

namespace SwiftConnections

theorem rdropWhile_append {α : Type} {p : α → Bool} {as : List α} (h : as.rdropWhile p = as) (bs : List α) :
    (as ++ bs).rdropWhile p = as ++ bs.rdropWhile p := by
  induction bs using List.reverseRecOn with
  | nil => rw [List.rdropWhile_nil, List.append_nil, h]
  | append_singleton bs b ih =>
    rw [← List.append_assoc]
    by_cases hb : p b = true
    · rw [List.rdropWhile_concat_pos _ _ _ hb, List.rdropWhile_concat_pos _ _ _ hb, ih]
    · rw [List.rdropWhile_concat_neg _ _ _ hb, List.rdropWhile_concat_neg _ _ _ hb, List.append_assoc]

namespace Text

variable {t : Text} {c : Char}

theorem trimEnd_isPrefix (t : Text) : t.trimEnd <+: t :=
  List.rdropWhile_prefix _ t

theorem trimEnd_trimEnd (t : Text) : t.trimEnd.trimEnd = t.trimEnd :=
  List.rdropWhile_idempotent _ t

theorem mem_of_mem_trim (h : c ∈ t.trim) : c ∈ t := by
  have hrest : c ∈ t.dropWhile isBlank := (trimEnd_isPrefix (t.dropWhile isBlank)).subset h
  exact (List.dropWhile_suffix isBlank).subset hrest

theorem trimEnd_of_trim (h : t.trim = t) : t.trimEnd = t := by
  have hidem : t.trim.trimEnd = t.trim := trimEnd_trimEnd (t.dropWhile isBlank)
  rwa [h] at hidem

/-- A character that is no blank keeps what stands before it. -/
theorem trimEnd_append_cons (hc : isBlank c = false) (a b : Text) : trimEnd (a ++ c :: b) = a ++ c :: b.trimEnd := by
  have hkept : (a ++ [c]).rdropWhile isBlank = a ++ [c] := List.rdropWhile_concat_neg _ _ _ (Bool.eq_false_iff.mp hc)
  have hrest : trimEnd (a ++ [c] ++ b) = a ++ [c] ++ b.trimEnd := rdropWhile_append hkept b
  simpa using hrest

theorem dropWhile_isBlank_of_unblank (h : ∀ c ∈ t, isBlank c = false) : t.dropWhile isBlank = t := by
  cases t with
  | nil => rfl
  | cons c t => exact List.dropWhile_cons_of_neg (Bool.eq_false_iff.mp (h c List.mem_cons_self))

theorem trim_of_unblank (h : ∀ c ∈ t, isBlank c = false) : t.trim = t := by
  have hend : t.trimEnd = t :=
    List.rdropWhile_eq_self_iff.mpr fun hne => Bool.eq_false_iff.mp (h _ (List.getLast_mem hne))
  rw [trim, dropBothWhile, dropWhile_isBlank_of_unblank h]
  exact hend

end Text

end SwiftConnections
