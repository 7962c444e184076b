import SwiftConnections.Http.OptionText
import SwiftConnections.Proofs.Text.Occurrence

namespace SwiftConnections

/-- A character that stands for itself between quotes. -/
def isUnescaped (c : Char) : Bool :=
  c ≠ '"' && c ≠ '\\' && c ≠ '\n'

theorem quotedChar_of_isUnescaped {c : Char} (h : isUnescaped c) : quotedChar c = [c] := by
  simp only [isUnescaped, ne_eq, Bool.and_eq_true, decide_eq_true_eq] at h
  simp [quotedChar, h]

theorem quotedChar_of_not_isUnescaped {c : Char} (h : ¬ isUnescaped c) :
    ∃ d ∈ ['"', '\\', 'n'], quotedChar c = ['\\', d] := by
  simp only [isUnescaped, ne_eq, Bool.and_eq_true, decide_eq_true_eq, Classical.not_and_iff_not_or_not,
    Classical.not_not] at h
  rcases h with (rfl | rfl) | rfl
  · exact ⟨'"', by simp, rfl⟩
  · exact ⟨'\\', by simp, rfl⟩
  · exact ⟨'n', by simp, rfl⟩

theorem not_mem_quotedChar {c d : Char} (h : isUnescaped c) (hn : c ≠ 'n') (hcd : c ≠ d) :
    c ∉ quotedChar d := by
  by_cases hd : isUnescaped d
  · simpa [quotedChar_of_isUnescaped hd] using hcd
  · obtain ⟨e, he, hq⟩ := quotedChar_of_not_isUnescaped hd
    simp only [isUnescaped, ne_eq, Bool.and_eq_true, decide_eq_true_eq] at h
    rw [hq]
    rintro hm
    rcases List.mem_cons.mp hm with rfl | hm
    · exact h.1.2 rfl
    · rw [List.mem_singleton.mp hm] at h hn
      simp_all

theorem quoted_eq (t : Text) : quoted t = ['"'] ++ (t.flatMap quotedChar ++ ['"']) :=
  rfl

theorem quoted_of_unescaped {t : Text} (h : ∀ c ∈ t, isUnescaped c) : quoted t = ['"'] ++ (t ++ ['"']) := by
  have hflat : t.flatMap quotedChar = t := by
    induction t with
    | nil => rfl
    | cons c t ih =>
      rw [List.flatMap_cons, quotedChar_of_isUnescaped (h c List.mem_cons_self),
        ih fun d hd => h d (List.mem_cons_of_mem c hd)]
      rfl
  rw [quoted_eq, hflat]

theorem lineFeed_not_mem_quoted (t : Text) : '\n' ∉ quoted t := by
  have hchar : ∀ c, '\n' ∉ quotedChar c := by
    intro c hm
    by_cases hc : isUnescaped c
    · rw [quotedChar_of_isUnescaped hc, List.mem_singleton] at hm
      subst c
      simp [isUnescaped] at hc
    · obtain ⟨d, hd, hq⟩ := quotedChar_of_not_isUnescaped hc
      rw [hq] at hm
      rcases List.mem_cons.mp hm with hm | hm
      · simp at hm
      · rw [← List.mem_singleton.mp hm] at hd
        simp at hd
  simp [quoted_eq, hchar]

theorem prefix_escaped_iff {p t : Text} (hp : ∀ c ∈ p, isUnescaped c) :
    p <+: t.flatMap quotedChar ++ ['"'] ↔ p <+: t := by
  induction t generalizing p with
  | nil =>
    cases p with
    | nil => simp
    | cons c p =>
      have hc : c ≠ '"' := by rintro rfl; simpa [isUnescaped] using hp _ List.mem_cons_self
      simp [hc]
  | cons d t ih =>
    cases p with
    | nil => simp
    | cons c p =>
      have hc := hp c List.mem_cons_self
      have hrest := ih fun e he => hp e (List.mem_cons_of_mem c he)
      by_cases hd : isUnescaped d
      · rw [List.flatMap_cons, quotedChar_of_isUnescaped hd, List.singleton_append, List.cons_append,
          List.cons_prefix_cons, List.cons_prefix_cons, hrest]
      · obtain ⟨e, -, he⟩ := quotedChar_of_not_isUnescaped hd
        have hcd : c ≠ d := by rintro rfl; exact hd hc
        have hcb : c ≠ '\\' := by rintro rfl; simp [isUnescaped] at hc
        simp [he, hcd, hcb]

theorem infix_escaped_iff {c : Char} {p t : Text} (hp : ∀ d ∈ c :: p, isUnescaped d) (hn : c ≠ 'n') :
    c :: p <:+: t.flatMap quotedChar ++ ['"'] ↔ c :: p <:+: t := by
  induction t with
  | nil =>
    have hquote : c ∉ ['"'] := by rintro h; simp_all [isUnescaped]
    simp [Text.not_cons_infix hquote]
  | cons d t ih =>
    have hc := hp c List.mem_cons_self
    by_cases hcd : c = d
    · have hpre := prefix_escaped_iff (t := d :: t) hp
      rw [List.flatMap_cons, quotedChar_of_isUnescaped (hcd ▸ hc)] at hpre ⊢
      simp only [List.cons_append, List.nil_append] at hpre ⊢
      rw [List.infix_cons_iff, List.infix_cons_iff, hpre, ih]
    · have hd := not_mem_quotedChar hc hn hcd
      rw [List.flatMap_cons, List.append_assoc, Text.cons_infix_append_iff hd, ih, List.infix_cons_iff,
        List.cons_prefix_cons]
      simp [hcd]

/-- Quoting adds no occurrence of a pattern of unescaped characters, and takes none away. -/
theorem infix_quoted_iff {c : Char} {p t : Text} (hp : ∀ d ∈ c :: p, isUnescaped d) (hn : c ≠ 'n') :
    c :: p <:+: quoted t ↔ c :: p <:+: t := by
  have hquote : c ∉ ['"'] := by
    rintro h
    rw [List.mem_singleton.mp h] at hp
    simpa [isUnescaped] using hp _ List.mem_cons_self
  rw [quoted_eq, Text.cons_infix_append_iff hquote, infix_escaped_iff hp hn]

theorem contains_quoted {c : Char} {p t : Text} (hp : ∀ d ∈ c :: p, isUnescaped d) (hn : c ≠ 'n') :
    (quoted t).contains (c :: p) = t.contains (c :: p) := by
  rw [Bool.eq_iff_iff, Text.contains_iff_infix, Text.contains_iff_infix, infix_quoted_iff hp hn]

/-- The first quote behind the opening one stands behind a backslash or at the end. -/
theorem not_quote_prefix_escaped (c : Char) (p t : Text) :
    ¬ '"' :: c :: p <+: t.flatMap quotedChar ++ ['"'] := by
  cases t with
  | nil => simp
  | cons d t =>
    by_cases hd : isUnescaped d
    · have hq : '"' ≠ d := by rintro rfl; simp [isUnescaped] at hd
      simp [quotedChar_of_isUnescaped hd, hq]
    · obtain ⟨e, -, he⟩ := quotedChar_of_not_isUnescaped hd
      simp [he]

/-- No blank stands directly before a quote with more text behind it. -/
theorem not_space_quote_infix_quoted (c : Char) (p t : Text) : ¬ ' ' :: '"' :: c :: p <:+: quoted t := by
  rw [quoted_eq, Text.cons_infix_append_iff (by decide)]
  induction t with
  | nil => exact Text.not_cons_infix (by decide)
  | cons d t ih =>
    by_cases hd : ' ' = d
    · subst d
      rw [List.flatMap_cons, quotedChar_of_isUnescaped (by decide), List.singleton_append,
        List.cons_append, List.infix_cons_iff, List.cons_prefix_cons]
      rintro (⟨-, h⟩ | h)
      · exact not_quote_prefix_escaped c p t h
      · exact ih h
    · have hmem := not_mem_quotedChar (by decide) (by decide) hd
      rw [List.flatMap_cons, List.append_assoc, Text.cons_infix_append_iff hmem]
      exact ih

theorem star_prefix_quoted_iff {t : Text} : ['"', '*', '"'] <+: quoted t ↔ t = ['*'] := by
  rw [quoted_eq, List.singleton_append, List.cons_prefix_cons]
  cases t with
  | nil => simp
  | cons c t =>
    by_cases hc : isUnescaped c
    · rw [List.flatMap_cons, quotedChar_of_isUnescaped hc, List.singleton_append, List.cons_append,
        List.cons_prefix_cons]
      cases t with
      | nil => simp [eq_comm]
      | cons d t =>
        by_cases hd : isUnescaped d
        · have hq : '"' ≠ d := by rintro rfl; simp [isUnescaped] at hd
          simp [quotedChar_of_isUnescaped hd, hq]
        · obtain ⟨e, -, he⟩ := quotedChar_of_not_isUnescaped hd
          simp [he]
    · obtain ⟨e, -, he⟩ := quotedChar_of_not_isUnescaped hc
      have hstar : c ≠ '*' := by rintro rfl; simp [isUnescaped] at hc
      simp [he, hstar]

end SwiftConnections
