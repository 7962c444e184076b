import SwiftConnections.Proofs.Swift.Layout

namespace SwiftConnections

open Outcome

theorem Step.runAll_append (code code' : List Step) (w : Writer) :
    Step.runAll (code ++ code') w = (Step.runAll code w).andThen (Step.runAll code') := by
  induction code generalizing w with
  | nil => rfl
  | cons step code ih =>
    rw [List.cons_append, Step.runAll, Step.runAll, andThen_assoc]
    exact congrArg (step.run w).andThen (funext ih)

theorem separated_singleton (code : List Step) : separated [code] = code :=
  List.intercalate_singleton

theorem separated_cons_cons (code next : List Step) (items : List (List Step)) :
    separated (code :: next :: items) = code ++ [.newline] ++ separated (next :: items) :=
  List.intercalate_cons_cons

/-- From the start of a line the code writes all of its text, and it leaves the writer as it was. The texts in
it may be of several lines. -/
def Settles (code : List Step) : Prop :=
  ∀ unit level guards, ∃ t, (Step.runAll code { unit, level, guards }).Wrote t { unit, level, guards }

theorem Layout.settles {code : List Step} {lines : List CodeLine} (h : Layout code lines) : Settles code :=
  fun unit level guards => ⟨_, h.run unit level guards⟩

namespace Settles

variable {code code' : List Step}

theorem nil : Settles [] :=
  Layout.nil.settles

theorem append (h : Settles code) (h' : Settles code') : Settles (code ++ code') := by
  intro unit level guards
  obtain ⟨t, ht⟩ := h unit level guards
  obtain ⟨t', ht'⟩ := h' unit level guards
  rw [Step.runAll_append]
  exact ⟨t ++ t', ht.andThen ht'⟩

theorem line (t : Text) : Settles (SwiftConnections.line t) := by
  intro unit level guards
  have hline := (Writer.line_wrote t unit level guards).andThen (done_wrote _)
  rw [andThen_assoc] at hline
  exact ⟨_, hline⟩

theorem emptyLine : Settles [.newline] :=
  Layout.emptyLine.settles

theorem snippet (t : Text) : Settles (SwiftConnections.snippet t) :=
  (Layout.snippet t).settles

theorem body (h : Settles code) : Settles [.nested code] := by
  intro unit level guards
  obtain ⟨t, ht⟩ := h unit (level + 1) guards
  exact ⟨_, (ht.mapWriter fun w => { w with level := w.level - 1 }).andThen (done_wrote _)⟩

theorem enclosed (opening closing : Text) (h : Settles code) :
    Settles (SwiftConnections.enclosed opening closing code) :=
  ((line _).append h.body).append (line _)

theorem block (header : Text) (h : Settles code) : Settles (SwiftConnections.block header code) :=
  h.enclosed _ _

theorem flatMap {α : Type} {items : List α} {code : α → List Step} (h : ∀ a ∈ items, Settles (code a)) :
    Settles (items.flatMap code) := by
  induction items with
  | nil => exact nil
  | cons a items ih =>
    exact (h a List.mem_cons_self).append (ih fun b hb => h b (List.mem_cons_of_mem a hb))

theorem separated {items : List (List Step)} (h : ∀ code ∈ items, Settles code) :
    Settles (SwiftConnections.separated items) := by
  induction items with
  | nil => exact nil
  | cons code items ih =>
    obtain ⟨hcode, hitems⟩ := List.forall_mem_cons.mp h
    cases items with
    | nil => rwa [separated_singleton]
    | cons next items =>
      rw [separated_cons_cons]
      exact (hcode.append emptyLine).append (ih hitems)

theorem render_append (h : Settles code) (h' : Settles code') (level : Nat) :
    render level (code ++ code') = render level code ++ render level code' := by
  obtain ⟨t, ht⟩ := h "    " level 0
  obtain ⟨t', ht'⟩ := h' "    " level 0
  have hboth := ht.andThen ht'
  rw [← Step.runAll_append] at hboth
  rw [render, render, render, hboth.text, ht.text, ht'.text]

theorem render_isInfix_left (h : Settles code) (h' : Settles code') (level : Nat) :
    render level code <:+: render level (code ++ code') :=
  h.render_append h' level ▸ (List.prefix_append _ _).isInfix

theorem render_isInfix_right (h : Settles code) (h' : Settles code') (level : Nat) :
    render level code' <:+: render level (code ++ code') :=
  h.render_append h' level ▸ (List.suffix_append _ _).isInfix

theorem render_isInfix {before after : List Step} (hbefore : Settles before) (h : Settles code)
    (hafter : Settles after) (level : Nat) : render level code <:+: render level (before ++ code ++ after) := by
  rw [(hbefore.append h).render_append hafter, hbefore.render_append h]
  exact List.infix_append _ _ _

theorem render_flatMap {α : Type} {items : List α} {code : α → List Step} (h : ∀ a ∈ items, Settles (code a))
    (level : Nat) : render level (items.flatMap code) = items.flatMap fun a => render level (code a) := by
  induction items with
  | nil => rfl
  | cons a items ih =>
    obtain ⟨ha, hitems⟩ := List.forall_mem_cons.mp h
    rw [List.flatMap_cons, ha.render_append (flatMap hitems), ih hitems, List.flatMap_cons]

/-- The empty line between two pieces of code is their only link. -/
theorem render_separated {items : List (List Step)} (h : ∀ code ∈ items, Settles code) (level : Nat) :
    render level (SwiftConnections.separated items) = Text.join ['\n'] (items.map (render level)) := by
  induction items with
  | nil => rfl
  | cons code items ih =>
    obtain ⟨hcode, hitems⟩ := List.forall_mem_cons.mp h
    cases items with
    | nil => simp [separated_singleton, Text.join]
    | cons next items =>
      have hrest : Settles (SwiftConnections.separated (next :: items)) := separated hitems
      rw [separated_cons_cons, (hcode.append emptyLine).render_append hrest, hcode.render_append emptyLine, ih hitems]
      exact List.intercalate_cons_cons.symm

/-- The code for one of several items stands somewhere in the text for all of them. -/
theorem render_isInfix_flatMap {α : Type} {items : List α} {code : α → List Step} (h : ∀ a ∈ items, Settles (code a))
    {a : α} (ha : a ∈ items) (level : Nat) : render level (code a) <:+: render level (items.flatMap code) := by
  obtain ⟨before, after, rfl⟩ := List.append_of_mem ha
  have hbefore : Settles (before.flatMap code) := flatMap fun b hb => h b (List.mem_append_left _ hb)
  have hafter : Settles (after.flatMap code) := flatMap fun b hb => h b (List.mem_append_right _ (.tail _ hb))
  have hinfix := hbefore.render_isInfix (h a ha) hafter level
  rw [List.flatMap_append, List.flatMap_cons]
  simpa only [List.append_assoc] using hinfix

theorem render_body (h : Settles code) (level : Nat) : render level [.nested code] = render (level + 1) code := by
  obtain ⟨t, ht⟩ := h "    " (level + 1) 0
  have hnested := (ht.mapWriter fun w => { w with level := w.level - 1 }).andThen (done_wrote _)
  rw [List.append_nil] at hnested
  rw [render, render, ht.text]
  exact hnested.text

end Settles

theorem render_line (level : Nat) (t : Text) :
    render level (line t) = CodeLine.placed "    " level ⟨0, t⟩ ++ ['\n'] := by
  have hline := (Writer.line_wrote t "    " level 0).andThen (done_wrote _)
  rw [andThen_assoc, List.append_nil] at hline
  exact hline.text

theorem render_line_of_mem {t : Text} {c : Char} (hc : c ∈ t) (hb : Text.isBlank c = false) (level : Nat) :
    render level (line t) = (List.replicate level "    ".toList).flatten ++ t ++ ['\n'] := by
  rw [render_line, CodeLine.placed_of_mem hc hb]
  rfl

theorem render_snippet (t : Text) : render 0 (snippet t) = Text.unlines t.lines := by
  have hplaced (l : Text) : CodeLine.placed "    " 0 ⟨0, l⟩ = l := by simp [CodeLine.placed]
  rw [(Layout.snippet t).render_eq, List.map_map, Function.comp_def]
  simp only [hplaced, List.map_id']

theorem render_block {code : List Step} (h : Settles code) (level : Nat) (header : Text) :
    render level (block header code) =
      render level (line (header ++ " \x7b")) ++ render (level + 1) code ++ render level (line "\x7d") := by
  have hopening := Settles.line (header ++ " \x7b")
  rw [block, enclosed, (hopening.append h.body).render_append (.line _), hopening.render_append h.body,
    h.render_body]

theorem render_opening_isInfix {code : List Step} (h : Settles code) (level : Nat) (header : Text) :
    render level (line (header ++ " \x7b")) <:+: render level (block header code) := by
  rw [render_block h]
  exact ((List.prefix_append _ _).trans (List.prefix_append _ _)).isInfix

/-- A block around a single line. -/
theorem render_block_line {t : Text} {c : Char} (hc : c ∈ t) (hb : Text.isBlank c = false) (level : Nat)
    (header : Text) :
    render level (block header (line t)) =
      let indent := fun n => (List.replicate n "    ".toList).flatten
      Text.unlines [indent level ++ (header ++ " \x7b"), indent (level + 1) ++ t, indent level ++ "\x7d"] := by
  have hbrace : '\x7b' ∈ header ++ " \x7b" := List.mem_append_right _ (by decide)
  have hclosing : '\x7d' ∈ "\x7d".toList := by decide
  rw [render_block (.line t), render_line_of_mem hbrace (by decide), render_line_of_mem hc hb,
    render_line_of_mem hclosing (by decide)]
  simp [Text.unlines]

theorem render_infix_block {code : List Step} (h : Settles code) (level : Nat) (header : Text) :
    render (level + 1) code <:+: render level (block header code) := by
  rw [render_block h]
  exact List.infix_append _ _ _

end SwiftConnections
