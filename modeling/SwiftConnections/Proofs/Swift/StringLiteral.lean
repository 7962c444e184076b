import SwiftConnections.Http.OptionText

namespace SwiftConnections

/-- The text that the inside of a Swift string literal denotes, if it is well formed: a backslash begins an
escape, and neither a quote nor a line feed stands there by itself. -/
def literalValue? : Text → Option Text
  | [] => some []
  | '\\' :: '\\' :: rest => (literalValue? rest).map ('\\' :: ·)
  | '\\' :: '"' :: rest => (literalValue? rest).map ('"' :: ·)
  | '\\' :: 'n' :: rest => (literalValue? rest).map ('\n' :: ·)
  | c :: rest => if c = '\\' ∨ c = '"' ∨ c = '\n' then none else (literalValue? rest).map (c :: ·)

theorem quotedChar_of_plain {c : Char} (h : ¬ (c = '\\' ∨ c = '"' ∨ c = '\n')) : quotedChar c = [c] := by
  obtain ⟨hb, hq, hl⟩ := by simpa only [not_or] using h
  rw [quotedChar, if_neg hq, if_neg hb, if_neg hl]

theorem literalValue?_quotedChar (c : Char) (rest : Text) :
    literalValue? (quotedChar c ++ rest) = (literalValue? rest).map (c :: ·) := by
  by_cases h : c = '\\' ∨ c = '"' ∨ c = '\n'
  · rcases h with rfl | rfl | rfl <;> rfl
  · rw [quotedChar_of_plain h, List.singleton_append, literalValue?, if_neg h]
    all_goals rintro _ rfl; exact absurd (.inl rfl) h

theorem literalValue?_escaped (t rest : Text) :
    literalValue? (t.flatMap quotedChar ++ rest) = (literalValue? rest).map (t ++ ·) := by
  induction t with
  | nil => simp
  | cons c t ih =>
    rw [List.flatMap_cons, List.append_assoc, literalValue?_quotedChar, ih, Option.map_map]
    rfl

/-- A literal denotes a text exactly if it is that text escaped. -/
theorem literalValue?_eq_some_iff {literal t : Text} : literalValue? literal = some t ↔ literal = t.flatMap quotedChar := by
  constructor
  · intro h
    induction literal using literalValue?.induct generalizing t with
    | case1 => cases h; rfl
    | case2 rest ih =>
      obtain ⟨u, hu, rfl⟩ := Option.map_eq_some_iff.mp h
      rw [ih hu]
      rfl
    | case3 rest ih =>
      obtain ⟨u, hu, rfl⟩ := Option.map_eq_some_iff.mp h
      rw [ih hu]
      rfl
    | case4 rest ih =>
      obtain ⟨u, hu, rfl⟩ := Option.map_eq_some_iff.mp h
      rw [ih hu]
      rfl
    | case5 c rest _ _ _ hc =>
      rw [literalValue?, if_pos hc] at h
      · cases h
      all_goals assumption
    | case6 c rest _ _ _ hc ih =>
      rw [literalValue?, if_neg hc] at h
      · obtain ⟨u, hu, rfl⟩ := Option.map_eq_some_iff.mp h
        rw [ih hu, List.flatMap_cons, quotedChar_of_plain hc, List.singleton_append]
      all_goals assumption
  · rintro rfl
    have hread := literalValue?_escaped t []
    rwa [List.append_nil, literalValue?, Option.map_some, List.append_nil] at hread

/-- The code outside of string literals. In a literal a backslash hides the character behind it. -/
def outsideLiterals : (inside : Bool) → Text → Text
  | _, [] => []
  | false, c :: rest => c :: outsideLiterals (c = '"') rest
  | true, '\\' :: _ :: rest => outsideLiterals true rest
  | true, c :: rest => if c = '"' then c :: outsideLiterals false rest else outsideLiterals true rest

theorem outsideLiterals_append {t : Text} (hq : '"' ∉ t) (hb : '\\' ∉ t) (rest : Text) :
    outsideLiterals true (t ++ rest) = outsideLiterals true rest := by
  induction t with
  | nil => rfl
  | cons c t ih =>
    obtain ⟨hcq, htq⟩ := not_or.mp (mt List.mem_cons.mpr hq)
    obtain ⟨hcb, htb⟩ := not_or.mp (mt List.mem_cons.mpr hb)
    have hstep : outsideLiterals true (c :: (t ++ rest)) = outsideLiterals true (t ++ rest) := by
      rw [outsideLiterals, if_neg (Ne.symm hcq)]
      exact fun _ _ hc _ => hcb hc.symm
    rw [List.cons_append, hstep, ih htq htb]

end SwiftConnections
