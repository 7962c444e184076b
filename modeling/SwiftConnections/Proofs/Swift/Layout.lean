import SwiftConnections.Proofs.Text.Lines
import SwiftConnections.Swift.Code

namespace SwiftConnections

/-- All writes were accepted. They come to the text and leave the writer as given. -/
structure Outcome.Wrote (o : Outcome) (t : Text) (w : Writer) : Prop where
  text : o.text = t
  writer : o.writer = w
  ok : o.ok = true

namespace Outcome

theorem done_wrote (w : Writer) : (done w).Wrote [] w :=
  ⟨rfl, rfl, rfl⟩

theorem Wrote.andThen {o : Outcome} {next : Writer → Outcome} {t t' : Text} {w w' : Writer}
    (h : o.Wrote t w) (h' : (next w).Wrote t' w') : (o.andThen next).Wrote (t ++ t') w' := by
  obtain ⟨rfl, rfl, hok⟩ := h
  obtain ⟨rfl, rfl, hok'⟩ := h'
  rw [Outcome.andThen, if_pos hok]
  exact ⟨List.flatten_append, rfl, hok'⟩

theorem andThen_assoc (o : Outcome) (f g : Writer → Outcome) :
    (o.andThen f).andThen g = o.andThen fun w => (f w).andThen g := by
  cases ho : o.ok with
  | false => simp [andThen, ho]
  | true =>
    cases hf : (f o.writer).ok with
    | false => simp [andThen, ho, hf]
    | true => simp [andThen, ho, hf]

theorem Wrote.mapWriter {o : Outcome} {t : Text} {w : Writer} (f : Writer → Writer) (h : o.Wrote t w) :
    (o.mapWriter f).Wrote t (f w) :=
  ⟨h.text, congrArg f h.writer, h.ok⟩

end Outcome

open Outcome

/-- A line of code, and how many levels it stands below the code it belongs to. -/
structure CodeLine where
  depth : Nat
  text : Text

namespace CodeLine

def deeper (l : CodeLine) : CodeLine :=
  { l with depth := l.depth + 1 }

/-- The line as it is written. Blanks alone are not indented. -/
def placed (unit : Text) (level : Nat) (l : CodeLine) : Text :=
  (if l.text.any fun c => !Text.isBlank c then (List.replicate (level + l.depth) unit).flatten else []) ++ l.text

theorem placed_of_mem {t : Text} {c : Char} (hc : c ∈ t) (hb : Text.isBlank c = false) (unit : Text)
    (level depth : Nat) : placed unit level ⟨depth, t⟩ = (List.replicate (level + depth) unit).flatten ++ t := by
  have hany : (t.any fun c => !Text.isBlank c) = true := List.any_eq_true.mpr ⟨c, hc, by simp [hb]⟩
  rw [placed, if_pos hany]

theorem placed_deeper (unit : Text) (level : Nat) (l : CodeLine) :
    l.deeper.placed unit level = l.placed unit (level + 1) := by
  have h : level + (l.depth + 1) = level + 1 + l.depth := by omega
  simp only [placed, deeper, h]

theorem lineFeed_not_mem_placed {unit : Text} {l : CodeLine} (hu : '\n' ∉ unit) (hl : '\n' ∉ l.text)
    (level : Nat) : '\n' ∉ l.placed unit level := by
  intro hm
  rcases List.mem_append.mp hm with hm | hm
  · split at hm
    · obtain ⟨t, ht, hm⟩ := List.mem_flatten.mp hm
      exact hu (List.eq_of_mem_replicate ht ▸ hm)
    · exact List.not_mem_nil hm
  · exact hl hm

end CodeLine

/-- The code writes whole lines, which are these. -/
inductive Layout : List Step → List CodeLine → Prop
  | nil : Layout [] []
  | line {t code lines} (ht : '\n' ∉ t) :
    Layout code lines → Layout (.write t :: .newline :: code) (⟨0, t⟩ :: lines)
  | newline {code lines} : Layout code lines → Layout (.newline :: code) (⟨0, []⟩ :: lines)
  | nested {body inner code lines} :
    Layout body inner → Layout code lines → Layout (.nested body :: code) (inner.map CodeLine.deeper ++ lines)

namespace Writer

variable {unit t : Text} {level guards : Nat}

theorem sendTimes_wrote {w : Writer} (hw : w.room = none) (t : Text) (times : Nat) :
    (sendTimes t times w).Wrote (List.replicate times t).flatten w := by
  induction times with
  | zero => exact done_wrote w
  | succ n ih =>
    have hsend : (w.send t).Wrote t w := by
      rw [send, hw]
      exact ⟨List.append_nil t, rfl, rfl⟩
    rw [sendTimes, List.replicate_succ, List.flatten_cons]
    exact hsend.andThen ih

theorem startLine_wrote (t : Text) (unit : Text) (level guards : Nat) :
    (startLine t { unit, level, guards }).Wrote
      (if t.any fun c => !Text.isBlank c then (List.replicate level unit).flatten else [])
      { unit, level, guards, atLineStart := !t.any fun c => !Text.isBlank c } := by
  cases hb : t.any fun c => !Text.isBlank c with
  | false =>
    simp only [startLine, hb, Bool.and_false, Bool.false_eq_true, if_false, Bool.not_false]
    exact done_wrote _
  | true =>
    simp only [startLine, hb, Bool.and_true, if_true, Bool.not_true]
    have hindent := sendTimes_wrote (w := { unit, level, guards }) rfl unit level
    rw [← List.append_nil (List.replicate level unit).flatten]
    exact hindent.andThen (done_wrote _)

theorem line_wrote (t : Text) (unit : Text) (level guards : Nat) :
    ((write t { unit, level, guards }).andThen newline).Wrote
      (CodeLine.placed unit level ⟨0, t⟩ ++ ['\n']) { unit, level, guards } := by
  have hend : ∀ atLineStart,
      (newline { unit, level, guards, atLineStart }).Wrote ['\n'] { unit, level, guards } :=
    fun _ => ⟨rfl, rfl, rfl⟩
  by_cases ht : t = []
  · subst ht
    exact (done_wrote _).andThen (hend true)
  · rw [write, if_neg ht]
    refine Wrote.andThen ?_ (hend (!t.any fun c => !Text.isBlank c))
    exact (startLine_wrote t unit level guards).andThen ⟨List.append_nil t, rfl, rfl⟩

end Writer

namespace Layout

variable {code code' : List Step} {lines lines' : List CodeLine}

/-- The lines are written one after the other, and the writer is then where it was before. -/
theorem run (h : Layout code lines) (unit : Text) (level guards : Nat) :
    (Step.runAll code { unit, level, guards }).Wrote (Text.unlines (lines.map (·.placed unit level)))
      { unit, level, guards } := by
  -- A nested body is run one level deeper, and the level is taken back behind it.
  induction h generalizing level with
  | nil => exact done_wrote _
  | @line t code lines _ _ ih =>
    have hline := (Writer.line_wrote t unit level guards).andThen (ih level)
    rw [andThen_assoc] at hline
    exact hline
  | newline _ ih =>
    have hend : (Writer.newline { unit, level, guards }).Wrote ['\n'] { unit, level, guards } :=
      ⟨rfl, rfl, rfl⟩
    exact hend.andThen (ih level)
  | @nested body inner code lines _ _ hbody hrest =>
    have hinner := (hbody (level + 1)).mapWriter fun w => { w with level := w.level - 1 }
    have hcode := hinner.andThen (hrest level)
    rw [← Text.unlines_append] at hcode
    rw [List.map_append, List.map_map]
    simp only [Function.comp_def, CodeLine.placed_deeper]
    exact hcode

theorem append (h : Layout code lines) (h' : Layout code' lines') :
    Layout (code ++ code') (lines ++ lines') := by
  induction h with
  | nil => exact h'
  | line ht _ ih => exact .line ht ih
  | newline _ ih => exact .newline ih
  | @nested body inner code lines hbody _ _ ih =>
    rw [List.append_assoc]
    exact .nested hbody ih

theorem singleLine {t : Text} (ht : '\n' ∉ t) : Layout (SwiftConnections.line t) [⟨0, t⟩] :=
  .line ht .nil

theorem emptyLine : Layout [.newline] [⟨0, []⟩] :=
  .newline .nil

theorem body (h : Layout code lines) : Layout [.nested code] (lines.map CodeLine.deeper) := by
  have hbody := Layout.nested h .nil
  rwa [List.append_nil] at hbody

theorem flatMap {α : Type} {items : List α} {code : α → List Step} {lines : α → List CodeLine}
    (h : ∀ a ∈ items, Layout (code a) (lines a)) : Layout (items.flatMap code) (items.flatMap lines) := by
  induction items with
  | nil => exact .nil
  | cons a items ih =>
    have hrest := ih fun b hb => h b (List.mem_cons_of_mem a hb)
    exact (h a List.mem_cons_self).append hrest

theorem snippet (t : Text) : Layout (SwiftConnections.snippet t) (t.lines.map fun l => ⟨0, l⟩) := by
  have h : Layout (t.lines.flatMap SwiftConnections.line) (t.lines.flatMap fun l => [⟨0, l⟩]) :=
    flatMap fun l hl => singleLine (Text.lineFeed_not_mem_line hl)
  rwa [← List.map_eq_flatMap] at h

theorem unbroken (h : Layout code lines) : ∀ l ∈ lines, '\n' ∉ l.text := by
  induction h with
  | nil => simp
  | line ht _ ih => exact List.forall_mem_cons.mpr ⟨ht, ih⟩
  | newline _ ih => exact List.forall_mem_cons.mpr ⟨List.not_mem_nil, ih⟩
  | nested _ _ hbody ih =>
    intro l hl
    rcases List.mem_append.mp hl with hl | hl
    · obtain ⟨inner, hinner, rfl⟩ := List.mem_map.mp hl
      exact hbody inner hinner
    · exact ih l hl

theorem render_eq (h : Layout code lines) (level : Nat) :
    render level code = Text.unlines (lines.map (·.placed "    " level)) :=
  (h.run "    " level 0).text

theorem split_render (h : Layout code lines) (level : Nat) :
    (render level code).split '\n' = lines.map (·.placed "    " level) ++ [[]] := by
  rw [h.render_eq, Text.split_unlines]
  intro t ht
  obtain ⟨l, hl, rfl⟩ := List.mem_map.mp ht
  exact CodeLine.lineFeed_not_mem_placed (by decide) (h.unbroken l hl) level

end Layout

end SwiftConnections
