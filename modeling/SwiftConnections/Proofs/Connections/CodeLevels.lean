import SwiftConnections.Proofs.Connections.Coverage
import SwiftConnections.Proofs.Connections.FileParts
import SwiftConnections.Proofs.Swift.Reindenting

namespace SwiftConnections

theorem WholeLines.lines {ts : List Text} (h : ∀ t ∈ ts, '\n' ∉ t) : WholeLines (ts.flatMap SwiftConnections.line) := by
  induction ts with
  | nil => exact nil
  | cons t ts ih =>
    obtain ⟨ht, hts⟩ := List.forall_mem_cons.mp h
    exact (line ht).append (ih hts)

theorem headerCode_wholeLines {source : Text} (h : '\n' ∉ source) : WholeLines (headerCode source) := by
  have hnotice : WholeLines (noticeCode source) := .lines (by simp [h])
  have himports : WholeLines (importLines.flatMap line) := .lines (by decide)
  exact headerCode_eq source ▸ (hnotice.append .emptyLine).append himports

theorem Support.code_wholeLines : WholeLines Support.code :=
  .append (.line (by decide)) (.separated (List.forall_mem_map.mpr fun t _ => .snippet t))

/-- Code of whole lines, and so each declaration, the header and the private declarations, is at every level its text
of level zero with that level's indentation before the lines that are not blank. -/
theorem code_reindents :
    (∀ code, WholeLines code → Reindents code) ∧
      (∀ (a : Artifact) (s : SwiftService), s.IsUnbroken → Reindents (a.code s)) ∧
      (∀ source, '\n' ∉ source → Reindents (headerCode source)) ∧ Reindents Support.code := by
  refine ⟨fun code h => h.reindents, fun a s hs => ?_, fun source h => (headerCode_wholeLines h).reindents,
    Support.code_wholeLines.reindents⟩
  obtain ⟨lines, hlines, -⟩ := (Artifact.outlined hs a).exposes
  exact hlines.reindents

theorem code_reindents_snippet :
    let code := block "a" (line "b" ++ line " " ++ snippet "c\r\n\n d" ++ [.newline])
    let names : ServiceNames := ⟨"A", "StreamingA", "RPCA", "RestA", "MockA", "A"⟩
    let s : SwiftService := { name := "S", names, methods := [] }
    let support (level : Nat) : Text := (Step.runAll Support.code { unit := "\t", level }).text
    WholeLines code ∧ s.IsUnbroken ∧
      (Step.runAll code { unit := "\t", level := 2 }).text =
        "\t\ta \x7b\n\t\t\tb\n \n\t\t\tc\n\n\t\t\t d\n\n\t\t\x7d\n" ∧
      (Step.runAll (Artifact.connection.code s) { unit := "  ", level := 1 }).text =
        "  protocol A \x7b\n  \x7d\n" ∧
      (Step.runAll (headerCode "a.proto") { unit := " ", level := 1 }).text =
        Text.indented " " (Step.runAll (headerCode "a.proto") { unit := " " }).text ∧
      support 2 = Text.indented "\t\t" (support 0) ∧
      (support 2).lines[3]? = some "\t\t    private let completion: (Result<T, LndApiError>) -> Void".toList := by
  intro code names s support
  have hcode : WholeLines code := by
    refine .block (by decide) (.append (.append (.append ?_ ?_) (.snippet _)) .emptyLine)
    · exact .line (by decide)
    · exact .line (by decide)
  have hs : s.IsUnbroken := by
    constructor <;> simp [s, names]
  obtain ⟨hwhole, hartifact, hheader, hsupport⟩ := code_reindents
  have htext := (hwhole code hcode "\t" 2 0 (by decide)).text
  have hprotocol := (hartifact .connection s hs "  " 1 0 (by decide)).text
  have hprivate : support 2 = Text.indented "\t\t" (support 0) := (hsupport "\t" 2 0 (by decide)).text
  refine ⟨hcode, hs, htext.trans (by decide), hprotocol.trans (by decide),
    (hheader "a.proto" (by decide) " " 1 0 (by decide)).text, hprivate, ?_⟩
  rw [hprivate]
  decide +kernel

end SwiftConnections
