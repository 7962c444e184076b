import SwiftConnections.Proofs.Swift.Tidying

namespace SwiftConnections

namespace Text

theorem not_isBlank_of_trimEnd {t : Text} {c : Char} (h : t.trimEnd = t) (hc : c ∈ t.getLast?) : isBlank c = false := by
  obtain ⟨hne, rfl⟩ := List.mem_getLast?_eq_getLast hc
  exact Bool.eq_false_iff.mpr (List.rdropWhile_eq_self_iff.mp h hne)

end Text

/-- Lines as they stand in tidied text: nothing is left to trim or to drop. -/
structure AreTidy (ls : List Text) : Prop where
  unbroken : ∀ l ∈ ls, '\n' ∉ l
  trimmed : ∀ l ∈ ls, l.trimEnd = l
  settled : ls.rdropWhile (·.isEmpty) = ls

theorem areTidy_tidyLines (source : Text) : AreTidy (tidyLines source) where
  unbroken := fun _ hl => lineFeed_not_mem_trimmedLine ((List.rdropWhile_prefix _ _).subset hl)
  trimmed := by
    intro l hl
    obtain ⟨l', -, rfl⟩ := List.mem_map.mp ((List.rdropWhile_prefix _ _).subset hl)
    exact l'.trimEnd_trimEnd
  settled := List.rdropWhile_idempotent _ _

namespace AreTidy

variable {ls : List Text}

theorem lines_unlines (h : AreTidy ls) : (Text.unlines ls).lines = ls := by
  refine Text.lines_unlines fun l hl => ⟨h.unbroken l hl, fun hreturn => ?_⟩
  exact Bool.false_ne_true (Text.not_isBlank_of_trimEnd (h.trimmed l hl) hreturn).symm

theorem tidyLines_unlines (h : AreTidy ls) : tidyLines (Text.unlines ls) = ls := by
  rw [tidyLines, h.lines_unlines, List.map_congr_left h.trimmed, List.map_id', h.settled]

theorem ne_nil_of_mem_getLast? (h : AreTidy ls) {l : Text} (hl : l ∈ ls.getLast?) : l ≠ [] := by
  obtain ⟨hne, rfl⟩ := List.mem_getLast?_eq_getLast hl
  simpa using List.rdropWhile_eq_self_iff.mp h.settled hne

end AreTidy

/-- The lines that tidied text shows: at least an empty one. -/
def shownLines (source : Text) : List Text :=
  if tidyLines source = [] then [[]] else tidyLines source

theorem tidy_eq_unlines_shownLines (source : Text) : tidy source = Text.unlines (shownLines source) := by
  rw [tidy_eq, shownLines]
  split
  next h => rw [h]; rfl
  next h => exact Text.join_append_separator h

theorem tidyLines_tidy (source : Text) : tidyLines (tidy source) = tidyLines source := by
  rw [tidy_eq_unlines_shownLines, shownLines]
  split
  next h => rw [h]; rfl
  next => exact (areTidy_tidyLines source).tidyLines_unlines

theorem tidy_eq_iff (source source' : Text) : tidy source = tidy source' ↔ tidyLines source = tidyLines source' := by
  constructor
  · intro h
    rw [← tidyLines_tidy source, h, tidyLines_tidy]
  · intro h
    rw [tidy_eq, h, ← tidy_eq]

theorem tidy_tidy (source : Text) : tidy (tidy source) = tidy source :=
  (tidy_eq_iff _ _).mpr (tidyLines_tidy source)

theorem tidy_eq_concat (source : Text) : ∃ body, tidy source = body ++ ['\n'] ∧ body.getLast? ≠ some '\n' := by
  refine ⟨_, rfl, fun hlast => ?_⟩
  obtain ⟨hne, hfeed⟩ := List.mem_getLast?_eq_getLast hlast
  have hkept := List.rdropWhile_last_not (· = '\n') _ hne
  simp only [decide_eq_true_eq] at hkept
  exact hkept hfeed.symm

theorem lines_tidy (source : Text) : (tidy source).lines = shownLines source := by
  rw [tidy_eq_unlines_shownLines, shownLines]
  split
  next => rfl
  next => exact (areTidy_tidyLines source).lines_unlines

theorem split_tidy (source : Text) : (tidy source).split '\n' = shownLines source ++ [[]] := by
  rw [tidy_eq_unlines_shownLines]
  refine Text.split_unlines ?_
  rw [← lines_tidy]
  exact fun l hl => Text.lineFeed_not_mem_line hl

/-- No line of tidied text ends in a blank, not even in a carriage return. -/
theorem not_isBlank_of_mem_split_tidy {source l : Text} (hl : l ∈ (tidy source).split '\n') {c : Char}
    (hc : c ∈ l.getLast?) : Text.isBlank c = false := by
  rw [split_tidy, shownLines] at hl
  have hnil (h : l = []) : Text.isBlank c = false := by
    rw [h] at hc
    cases hc
  rcases List.mem_append.mp hl with hl | hl
  · split at hl
    next => exact hnil (List.mem_singleton.mp hl)
    next => exact Text.not_isBlank_of_trimEnd ((areTidy_tidyLines source).trimmed l hl) hc
  · exact hnil (List.mem_singleton.mp hl)

theorem tidy_eq_or_content (source : Text) :
    tidy source = ['\n'] ∨ ∃ l ∈ (tidy source).lines.getLast?, ∃ c ∈ l, Text.isBlank c = false := by
  rw [lines_tidy]
  by_cases h : tidyLines source = []
  · left
    rw [tidy_eq, h]
    rfl
  · right
    have htidy := areTidy_tidyLines source
    rw [shownLines, if_neg h]
    have hlast := List.getLast?_eq_some_getLast h
    have hne := htidy.ne_nil_of_mem_getLast? hlast
    exact ⟨_, hlast, _, List.getLast_mem hne, Text.not_isBlank_of_trimEnd
      (htidy.trimmed _ (List.getLast_mem h)) (List.getLast?_eq_some_getLast hne)⟩

/-- Tidied text is in a normal form: to tidy it again changes nothing, one line feed is at its end, and no line of it ends
in a blank. Its lines are those of the source, trimmed at their ends, without the empty ones at the end, and these decide
which sources have the same form. -/
theorem tidy_normalForm (source : Text) :
    tidy (tidy source) = tidy source ∧
    (∃ body, tidy source = body ++ ['\n'] ∧ body.getLast? ≠ some '\n') ∧
    (tidy source = ['\n'] ∨ ∃ l ∈ (tidy source).lines.getLast?, ∃ c ∈ l, Text.isBlank c = false) ∧
    (∀ l ∈ (tidy source).split '\n', ∀ c ∈ l.getLast?, Text.isBlank c = false) ∧
    (tidy source).lines = (if tidyLines source = [] then [[]] else tidyLines source) ∧
    ∀ source', tidy source = tidy source' ↔ tidyLines source = tidyLines source' :=
  ⟨tidy_tidy source, tidy_eq_concat source, tidy_eq_or_content source,
    fun _ hl _ hc => not_isBlank_of_mem_split_tidy hl hc, lines_tidy source, tidy_eq_iff source⟩

theorem tidy_normalForm_blanks :
    let source : Text := "\n a \r\n\r\nb\t"
    tidy source = "\n a\n\nb\n".toList ∧ tidy (tidy source) = tidy source ∧
      " a".toList ∈ (tidy source).split '\n' ∧ Text.isBlank 'a' = false ∧ (tidy source).lines = tidyLines source ∧
      tidy source = tidy "\n a\n \nb\n\u2003\n" := by
  intro source
  obtain ⟨hself, -, -, hends, hlines, hsame⟩ := tidy_normalForm source
  have hmem : " a".toList ∈ (tidy source).split '\n' := by decide
  exact ⟨by decide, hself, hmem, hends _ hmem 'a' rfl, hlines, (hsame _).mpr (by decide)⟩

end SwiftConnections
