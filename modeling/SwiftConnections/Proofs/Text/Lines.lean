import SwiftConnections.Text

namespace SwiftConnections

namespace Text

/-- A line feed ends the line before it, which is kept whole unless a carriage return stands at its end. -/
theorem lines_append_lineFeed {t rest : Text} (h : '\n' ∉ t) (hr : t.getLast? ≠ some '\r') :
    (t ++ '\n' :: rest).lines = t :: rest.lines := by
  induction t with
  | nil => rfl
  | cons c t ih =>
    have hc : c ≠ '\n' := fun e => h (e ▸ List.mem_cons_self)
    have ht : '\n' ∉ t := fun hm => h (List.mem_cons_of_mem c hm)
    cases t with
    | nil =>
      have hcr : c ≠ '\r' := fun e => hr (by simp [e])
      simp [lines, hcr]
    | cons d t =>
      have hd : d ≠ '\n' := fun e => ht (e ▸ List.mem_cons_self)
      rw [List.cons_append, lines, ih ht (by simpa using hr)]
      · exact hc
      · intro rest' _ he
        exact hd (List.cons.inj he).1

theorem lineFeed_not_mem_line {t l : Text} (h : l ∈ t.lines) : '\n' ∉ l := by
  fun_induction lines t generalizing l with
  | case1 => simp at h
  | case2 rest ih => grind
  | case3 rest ih => grind
  | case4 c rest => grind
  | case5 c rest => grind

theorem lines_unlines {ls : List Text} (h : ∀ l ∈ ls, '\n' ∉ l ∧ l.getLast? ≠ some '\r') :
    (unlines ls).lines = ls := by
  induction ls with
  | nil => rfl
  | cons l ls ih =>
    obtain ⟨hl, hr⟩ := h l List.mem_cons_self
    have hls := ih fun l' hl' => h l' (List.mem_cons_of_mem l hl')
    have hstep : (l ++ '\n' :: unlines ls).lines = l :: (unlines ls).lines := lines_append_lineFeed hl hr
    rw [hls] at hstep
    simpa [unlines] using hstep

theorem unlines_append (ls ls' : List Text) : unlines (ls ++ ls') = unlines ls ++ unlines ls' :=
  List.flatMap_append

theorem split_append_separator {t rest : Text} {sep : Char} (h : sep ∉ t) :
    (t ++ sep :: rest).split sep = t :: rest.split sep := by
  induction t with
  | nil => simp [split]
  | cons c t ih =>
    have hc : c ≠ sep := fun e => h (e ▸ List.mem_cons_self)
    have ht : sep ∉ t := fun hm => h (List.mem_cons_of_mem c hm)
    rw [List.cons_append, split, if_neg hc, ih ht]
    rfl

/-- The pieces between line feeds are the lines, and nothing after the last one. -/
theorem split_unlines {ls : List Text} (h : ∀ l ∈ ls, '\n' ∉ l) : (unlines ls).split '\n' = ls ++ [[]] := by
  induction ls with
  | nil => rfl
  | cons l ls ih =>
    have hstep : (l ++ '\n' :: unlines ls).split '\n' = l :: (unlines ls).split '\n' :=
      split_append_separator (h l List.mem_cons_self)
    rw [ih fun l' hl' => h l' (List.mem_cons_of_mem l hl')] at hstep
    simpa [unlines] using hstep

end Text

end SwiftConnections
