import SwiftConnections.Proofs.Swift.Composition
import SwiftConnections.Proofs.Text.Pieces

namespace SwiftConnections

namespace Text

/-- The line behind an indentation, or as it is if it holds no more than blanks. -/
def indentedLine (indent t : Text) : Text :=
  if t.any fun c => !isBlank c then indent ++ t else t

/-- The text with the indentation before each line that holds more than blanks. -/
def indented (indent t : Text) : Text :=
  join ['\n'] ((t.split '\n').map (indentedLine indent))

theorem indentedLine_of_any {t : Text} (h : (t.any fun c => !isBlank c) = true) (indent : Text) :
    indentedLine indent t = indent ++ t :=
  if_pos h

theorem indentedLine_of_blank {t : Text} (h : (t.any fun c => !isBlank c) = false) (indent : Text) :
    indentedLine indent t = t :=
  if_neg (by simp [h])

theorem indented_unlines {ls : List Text} (h : ∀ l ∈ ls, '\n' ∉ l) (indent : Text) :
    indented indent (unlines ls) = unlines (ls.map (indentedLine indent)) := by
  have hend : indentedLine indent [] = [] := indentedLine_of_blank rfl indent
  rw [indented, split_unlines h, List.map_append, List.map_singleton, join_concat, hend, List.append_nil]
  rfl

end Text

theorem CodeLine.placed_eq_indentedLine (unit : Text) (level : Nat) (l : CodeLine) :
    l.placed unit level = Text.indentedLine (List.replicate level unit).flatten (l.placed unit 0) := by
  cases h : l.text.any fun c => !Text.isBlank c with
  | false =>
    have hplaced (level : Nat) : l.placed unit level = l.text := by simp [placed, h]
    rw [hplaced, hplaced, Text.indentedLine_of_blank h]
  | true =>
    have hplaced (level : Nat) : l.placed unit level = (List.replicate (level + l.depth) unit).flatten ++ l.text := by
      simp [placed, h]
    have hany : ((l.placed unit 0).any fun c => !Text.isBlank c) = true := by
      rw [hplaced, List.any_append, h, Bool.or_true]
    rw [Text.indentedLine_of_any hany, hplaced, hplaced, Nat.zero_add, ← List.replicate_append_replicate,
      List.flatten_append, List.append_assoc]

/-- Code put together from whole lines, snippets, empty lines, blocks and separated pieces. -/
inductive WholeLines : List Step → Prop
  | nil : WholeLines []
  | append {code code' : List Step} (h : WholeLines code) (h' : WholeLines code') : WholeLines (code ++ code')
  | line {t : Text} (ht : '\n' ∉ t) : WholeLines (line t)
  | snippet (t : Text) : WholeLines (snippet t)
  | emptyLine : WholeLines [.newline]
  | block {header : Text} {body : List Step} (hh : '\n' ∉ header) (h : WholeLines body) : WholeLines (block header body)
  | separated {items : List (List Step)} (h : ∀ code ∈ items, WholeLines code) : WholeLines (separated items)
  /-- A body one level deeper, without lines around it. -/
  | nested {body : List Step} (h : WholeLines body) : WholeLines [.nested body]

theorem Layout.separated {items : List (List Step)} (h : ∀ code ∈ items, ∃ lines, Layout code lines) :
    ∃ lines, Layout (SwiftConnections.separated items) lines := by
  induction items with
  | nil => exact ⟨[], .nil⟩
  | cons code items ih =>
    obtain ⟨⟨lines, hcode⟩, hitems⟩ := List.forall_mem_cons.mp h
    cases items with
    | nil => exact ⟨lines, by rwa [separated_singleton]⟩
    | cons next items =>
      obtain ⟨lines', hrest⟩ := ih hitems
      rw [separated_cons_cons]
      exact ⟨_, (hcode.append .emptyLine).append hrest⟩

theorem Layout.block {header : Text} {body : List Step} {lines : List CodeLine} (hh : '\n' ∉ header)
    (h : Layout body lines) : Layout (SwiftConnections.block header body)
      (⟨0, header ++ " \x7b"⟩ :: lines.map CodeLine.deeper ++ [⟨0, "\x7d"⟩]) := by
  have hopening : '\n' ∉ header ++ " \x7b" := by simp [hh]
  exact ((Layout.singleLine hopening).append h.body).append (.singleLine (by decide))

theorem WholeLines.layout {code : List Step} (h : WholeLines code) : ∃ lines, Layout code lines := by
  induction h with
  | nil => exact ⟨[], .nil⟩
  | append _ _ ih ih' =>
    obtain ⟨lines, h⟩ := ih
    obtain ⟨lines', h'⟩ := ih'
    exact ⟨lines ++ lines', h.append h'⟩
  | line ht => exact ⟨_, .singleLine ht⟩
  | snippet t => exact ⟨_, .snippet t⟩
  | emptyLine => exact ⟨_, .emptyLine⟩
  | block hh _ ih =>
    obtain ⟨lines, h⟩ := ih
    exact ⟨_, .block hh h⟩
  | separated _ ih => exact Layout.separated ih
  | nested _ ih =>
    obtain ⟨lines, h⟩ := ih
    exact ⟨_, h.body⟩

/-- At a level the code writes its text of level zero with the level's indentation, and it leaves the writer as it was. -/
def Reindents (code : List Step) : Prop :=
  ∀ unit level guards, '\n' ∉ unit → (Step.runAll code { unit, level, guards }).Wrote
    (Text.indented (List.replicate level unit).flatten (Step.runAll code { unit, guards }).text)
    { unit, level, guards }

theorem Layout.reindents {code : List Step} {lines : List CodeLine} (h : Layout code lines) : Reindents code := by
  intro unit level guards hu
  have hfeed : ∀ t ∈ lines.map (·.placed unit 0), '\n' ∉ t := by
    intro t ht
    obtain ⟨l, hl, rfl⟩ := List.mem_map.mp ht
    exact CodeLine.lineFeed_not_mem_placed hu (h.unbroken l hl) 0
  have hlines : (lines.map (·.placed unit 0)).map (Text.indentedLine (List.replicate level unit).flatten) =
      lines.map (·.placed unit level) := by
    rw [List.map_map]
    exact List.map_congr_left fun l _ => (l.placed_eq_indentedLine unit level).symm
  rw [(h.run unit 0 guards).text, Text.indented_unlines hfeed, hlines]
  exact h.run unit level guards

theorem WholeLines.reindents {code : List Step} (h : WholeLines code) : Reindents code := by
  obtain ⟨lines, hlines⟩ := h.layout
  exact hlines.reindents

end SwiftConnections
