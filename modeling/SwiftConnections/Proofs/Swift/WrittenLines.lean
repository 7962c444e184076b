import SwiftConnections.Proofs.Swift.Layout

namespace SwiftConnections

/-- At a level the code writes these lines and nothing else. -/
def WritesLines (level : Nat) (code : List Step) (texts : List Text) : Prop :=
  ∃ lines, Layout code lines ∧ lines.map (·.placed "    " level) = texts

namespace WritesLines

variable {level : Nat} {code code' : List Step} {texts texts' : List Text}

theorem append (h : WritesLines level code texts) (h' : WritesLines level code' texts') :
    WritesLines level (code ++ code') (texts ++ texts') := by
  obtain ⟨lines, hl, rfl⟩ := h
  obtain ⟨lines', hl', rfl⟩ := h'
  exact ⟨lines ++ lines', hl.append hl', List.map_append⟩

theorem body (h : WritesLines (level + 1) code texts) : WritesLines level [.nested code] texts := by
  obtain ⟨lines, hl, rfl⟩ := h
  refine ⟨_, hl.body, ?_⟩
  rw [List.map_map]
  simp only [Function.comp_def, CodeLine.placed_deeper]

theorem line {t : Text} {c : Char} (hc : c ∈ t) (hb : Text.isBlank c = false) (ht : '\n' ∉ t) :
    WritesLines level (SwiftConnections.line t) [(List.replicate level "    ".toList).flatten ++ t] :=
  ⟨_, .singleLine ht, congrArg ([·]) (CodeLine.placed_of_mem hc hb "    " level 0)⟩

theorem emptyLine : WritesLines level [.newline] [[]] :=
  ⟨_, .emptyLine, rfl⟩

theorem block {header : Text} (hh : '\n' ∉ header) (h : WritesLines (level + 1) code texts) :
    WritesLines level (SwiftConnections.block header code)
      (((List.replicate level "    ".toList).flatten ++ (header ++ " \x7b")) :: texts ++
        [(List.replicate level "    ".toList).flatten ++ "\x7d"]) := by
  have hfeed : '\n' ∉ header ++ " \x7b" := by simp [hh]
  have hbrace : '\x7b' ∈ header ++ " \x7b" := List.mem_append_right _ (by decide)
  have hopening : WritesLines level (SwiftConnections.line (header ++ " \x7b")) _ := line hbrace (by decide) hfeed
  have hclosing : WritesLines level (SwiftConnections.line "\x7d") _ :=
    line (List.mem_singleton_self '\x7d') (by decide) (by decide)
  exact (hopening.append h.body).append hclosing

theorem flatMap {α : Type} {items : List α} {code : α → List Step} {texts : α → List Text}
    (h : ∀ a ∈ items, WritesLines level (code a) (texts a)) :
    WritesLines level (items.flatMap code) (items.flatMap texts) := by
  induction items with
  | nil => exact ⟨[], .nil, rfl⟩
  | cons a items ih =>
    obtain ⟨ha, hitems⟩ := List.forall_mem_cons.mp h
    exact ha.append (ih hitems)

theorem split_render (h : WritesLines level code texts) : (render level code).split '\n' = texts ++ [[]] := by
  obtain ⟨lines, hl, rfl⟩ := h
  exact hl.split_render level

end WritesLines

end SwiftConnections
