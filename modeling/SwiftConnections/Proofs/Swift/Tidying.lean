import SwiftConnections.Proofs.Text.Lines
import SwiftConnections.Proofs.Text.Pieces
import SwiftConnections.Proofs.Text.Trimming
import SwiftConnections.Swift.Tidy

namespace SwiftConnections

namespace Text

/-- Nothing stands behind the last line feed. -/
def EndsLine (t : Text) : Prop :=
  t = [] ∨ t.getLast? = some '\n'

namespace EndsLine

theorem concat (t : Text) : EndsLine (t ++ ['\n']) :=
  .inr List.getLast?_concat

theorem append {a b : Text} (h : EndsLine a) (h' : EndsLine b) : EndsLine (a ++ b) := by
  rcases h' with rfl | h'
  · rwa [List.append_nil]
  · exact .inr (by rw [List.getLast?_append, h', Option.some_or])

theorem unlines (ls : List Text) : EndsLine (Text.unlines ls) := by
  induction ls with
  | nil => exact .inl rfl
  | cons l ls ih => exact (concat l).append ih

theorem of_cons {c : Char} {t : Text} (h : EndsLine (c :: t)) : EndsLine t := by
  rcases t with _ | ⟨d, t⟩
  · exact .inl rfl
  · exact .inr (by simpa [EndsLine, List.getLast?_cons_cons] using h)

end EndsLine

theorem lines_eq_nil_iff {t : Text} : t.lines = [] ↔ t = [] := by
  fun_cases lines t <;> simp

/-- Behind a line feed the lines begin anew. -/
theorem lines_append {a b : Text} (h : EndsLine a) : (a ++ b).lines = a.lines ++ b.lines := by
  fun_induction lines a with
  | case1 => rfl
  | case2 rest ih => exact congrArg ([] :: ·) (ih h.of_cons)
  | case3 rest ih => exact congrArg ([] :: ·) (ih h.of_cons.of_cons)
  | case4 c rest hfeed hreturn hrest =>
    rw [lines_eq_nil_iff] at hrest
    subst hrest
    exact absurd (by simpa [EndsLine] using h) hfeed
  | case5 c rest hfeed hreturn line more hrest ih =>
    have hne : rest ≠ [] := fun heq => by simp [heq, lines] at hrest
    rw [List.cons_append, lines, ih h.of_cons, hrest]
    · rfl
    · exact hfeed
    · intro after hc hafter
      obtain ⟨d, rest, rfl⟩ := List.exists_cons_of_ne_nil hne
      exact hreturn rest hc (by rw [(List.cons.inj hafter).1])

/-- Line feeds at the end of joined lines stand behind empty lines at the end of these. -/
theorem dropEndWhile_join {ls : List Text} (h : ∀ l ∈ ls, '\n' ∉ l) :
    (join ['\n'] ls).dropEndWhile (· = '\n') = join ['\n'] (ls.rdropWhile (·.isEmpty)) := by
  induction ls using List.reverseRecOn with
  | nil => rfl
  | append_singleton ls l ih =>
    rw [join_concat]
    by_cases hl : l = []
    · rw [List.rdropWhile_concat_pos _ _ _ (by simpa using hl), ← ih fun l hl => h l (List.mem_append_left _ hl), hl,
        List.append_nil]
      by_cases hls : ls = []
      · rw [hls]
        rfl
      · rw [← join_append_separator hls]
        exact List.rdropWhile_concat_pos _ _ _ (by decide)
    · obtain ⟨l, c, rfl⟩ := (List.eq_nil_or_concat' l).resolve_left hl
      rw [List.rdropWhile_concat_neg _ _ _ (by simp), join_concat, ← List.append_assoc]
      have hc : c ≠ '\n' := fun heq => h (l ++ [c]) (by simp) (by simp [heq])
      exact List.rdropWhile_concat_neg _ _ _ (by simpa using hc)

end Text

/-- The lines of tidied source text. -/
def tidyLines (source : Text) : List Text :=
  (source.lines.map Text.trimEnd).rdropWhile (·.isEmpty)

theorem lineFeed_not_mem_trimmedLine {source l : Text} (hl : l ∈ source.lines.map Text.trimEnd) : '\n' ∉ l := by
  obtain ⟨l', hl', rfl⟩ := List.mem_map.mp hl
  exact fun hm => Text.lineFeed_not_mem_line hl' ((Text.trimEnd_isPrefix l').subset hm)

theorem tidy_eq (source : Text) : tidy source = Text.join ['\n'] (tidyLines source) ++ ['\n'] :=
  congrArg (· ++ ['\n']) (Text.dropEndWhile_join fun _ hl => lineFeed_not_mem_trimmedLine hl)

/-- The last line of the text is ended and has more than blanks on it. -/
structure EndsInContent (t : Text) : Prop where
  endsLine : t.EndsLine
  content : ∃ ls l, t.lines = ls ++ [l] ∧ l.trimEnd ≠ []

namespace EndsInContent

variable {a : Text}

theorem line {t : Text} {c : Char} (hc : c ∈ t) (hb : Text.isBlank c = false) (hfeed : '\n' ∉ t)
    (hreturn : t.getLast? ≠ some '\r') : EndsInContent (t ++ ['\n']) where
  endsLine := .concat t
  content := by
    refine ⟨[], t, Text.lines_append_lineFeed hfeed hreturn, fun htrim => ?_⟩
    have hblank : ∀ d ∈ t, Text.isBlank d = true := List.rdropWhile_eq_nil_iff.mp htrim
    exact Bool.false_ne_true (hb.symm.trans (hblank c hc))

theorem append_left {p : Text} (hp : p.EndsLine) (h : EndsInContent a) : EndsInContent (p ++ a) := by
  obtain ⟨ls, l, hlines, hl⟩ := h.content
  exact ⟨hp.append h.endsLine, p.lines ++ ls, l, by rw [Text.lines_append hp, hlines, List.append_assoc], hl⟩

theorem unlines {ls : List Text} {l : Text} {c : Char} (hc : c ∈ l) (hb : Text.isBlank c = false) (hfeed : '\n' ∉ l)
    (hreturn : l.getLast? ≠ some '\r') : EndsInContent (Text.unlines (ls ++ [l])) := by
  have hlast : EndsInContent (l ++ ['\n'] ++ []) := (List.append_nil _).symm ▸ line hc hb hfeed hreturn
  rw [Text.unlines_append]
  exact hlast.append_left (.unlines ls)

/-- No line is left out. -/
theorem tidyLines_eq (h : EndsInContent a) : tidyLines a = a.lines.map Text.trimEnd := by
  obtain ⟨ls, l, hlines, hl⟩ := h.content
  rw [tidyLines, hlines, List.map_append, List.map_singleton]
  exact List.rdropWhile_concat_neg _ _ _ (by simpa using hl)

theorem tidyLines_ne_nil (h : EndsInContent a) : tidyLines a ≠ [] := by
  obtain ⟨ls, l, hlines, -⟩ := h.content
  simp [h.tidyLines_eq, hlines]

theorem tidy_eq_unlines (h : EndsInContent a) : tidy a = Text.unlines (tidyLines a) := by
  rw [tidy_eq, Text.join_append_separator h.tidyLines_ne_nil]
  rfl

theorem tidy_append_left {p : Text} (hp : p.EndsLine) (h : EndsInContent a) :
    tidy (p ++ a) = Text.unlines (p.lines.map Text.trimEnd) ++ tidy a := by
  rw [(h.append_left hp).tidy_eq_unlines, h.tidy_eq_unlines, (h.append_left hp).tidyLines_eq, h.tidyLines_eq,
    Text.lines_append hp, List.map_append]
  exact Text.unlines_append _ _

theorem tidyLines_append (h : EndsInContent a) (b : Text) : tidyLines (a ++ b) = tidyLines a ++ tidyLines b := by
  have hself : (tidyLines a).rdropWhile (·.isEmpty) = tidyLines a := List.rdropWhile_idempotent _ _
  rw [tidyLines, Text.lines_append h.endsLine, List.map_append, ← h.tidyLines_eq, rdropWhile_append hself]
  rfl

/-- What stands behind the text plays no part in how it is tidied. -/
theorem tidy_append (h : EndsInContent a) (b : Text) : tidy (a ++ b) = tidy a ++ Text.unlines (tidyLines b) := by
  have hne : tidyLines (a ++ b) ≠ [] := by
    rw [h.tidyLines_append]
    exact List.append_ne_nil_of_left_ne_nil h.tidyLines_ne_nil _
  rw [tidy_eq, Text.join_append_separator hne, h.tidy_eq_unlines, h.tidyLines_append]
  exact Text.unlines_append _ _

end EndsInContent

end SwiftConnections
