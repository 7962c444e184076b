import Mathlib.Algebra.GroupWithZero.Nat
import SwiftConnections.Swift.Code

namespace SwiftConnections

/-- The number of bytes of several writes. -/
def writesSize (writes : List Text) : Nat :=
  (writes.map Text.utf8Size).sum

theorem writesSize_append (writes writes' : List Text) :
    writesSize (writes ++ writes') = writesSize writes + writesSize writes' := by
  rw [writesSize, writesSize, writesSize, List.map_append, List.sum_append]

theorem writesSize_cons (t : Text) (writes : List Text) :
    writesSize (t :: writes) = t.utf8Size + writesSize writes := by
  rw [writesSize, writesSize, List.map_cons, List.sum_cons]

/-- The first of all writes, as many as fit into the room. -/
structure LongestFitting (room : Nat) (all writes : List Text) : Prop where
  isPrefix : writes <+: all
  fits : writesSize writes ≤ room
  longest : ∀ longer, longer <+: all → writesSize longer ≤ room → longer <+: writes

theorem longestFitting_self {room : Nat} {all : List Text} (h : writesSize all ≤ room) :
    LongestFitting room all all :=
  ⟨List.prefix_rfl, h, fun _ hprefix _ => hprefix⟩

theorem longestFitting_before {room : Nat} {before after : List Text} {next : Text}
    (hbefore : writesSize before ≤ room) (hnext : room < writesSize before + next.utf8Size) :
    LongestFitting room (before ++ next :: after) before := by
  refine ⟨List.prefix_append _ _, hbefore, fun longer hlonger hfits => ?_⟩
  rcases List.prefix_or_prefix_of_prefix hlonger (List.prefix_append before (next :: after)) with h | ⟨more, rfl⟩
  · exact h
  · have hmore : more <+: next :: after := (List.prefix_append_right_inj before).mp hlonger
    cases more with
    | nil => exact (List.append_nil before).symm ▸ List.prefix_rfl
    | cons t more =>
      obtain ⟨rfl, -⟩ := List.cons_prefix_cons.mp hmore
      rw [writesSize_append, writesSize_cons] at hfits
      omega

/-- The same writer with that much room. -/
def Writer.withRoom (w : Writer) (room : Option Nat) : Writer :=
  { w with room }

/-- A change of the writer that has nothing to do with its room. -/
def KeepsRoom (c : Writer → Writer) : Prop :=
  ∀ w room, c (w.withRoom room) = (c w).withRoom room

theorem KeepsRoom.room_eq {c : Writer → Writer} (h : KeepsRoom c) (w : Writer) : (c w).room = w.room := by
  have hself : c w = (c w).withRoom w.room := h w w.room
  rw [hself]
  rfl

theorem Writer.keepsRoom_dedent : KeepsRoom Writer.dedent := by
  intro w room
  by_cases h : w.guards = 0
  · simp [dedent, withRoom, h]
  · simp [dedent, withRoom, h]

namespace Outcome

theorem andThen_of_ok {o : Outcome} (h : o.ok = true) (next : Writer → Outcome) : o.andThen next =
    ⟨o.writes ++ (next o.writer).writes, (next o.writer).writer, (next o.writer).ok⟩ :=
  if_pos h

theorem andThen_of_refused {o : Outcome} (h : o.ok = false) (next : Writer → Outcome) : o.andThen next = o :=
  if_neg (by simp [h])

/-- What writing comes to in limited room, given what it comes to without a limit: either all is written, or a write
does not fit and ends it. -/
inductive Limited (room : Nat) (free limited : Outcome) : Prop
  | whole (hfits : writesSize free.writes ≤ room) (hwrites : limited.writes = free.writes)
      (hwriter : limited.writer = free.writer.withRoom (some (room - writesSize free.writes)))
      (hok : limited.ok = true)
  | refused (next : Text) (after : List Text) (hwrites : free.writes = limited.writes ++ next :: after)
      (hfits : writesSize limited.writes ≤ room) (hnext : room < writesSize limited.writes + next.utf8Size)
      (hok : limited.ok = false)

namespace Limited

variable {room : Nat} {free limited : Outcome}

theorem ok_iff (h : Limited room free limited) : limited.ok = true ↔ writesSize free.writes ≤ room := by
  cases h with
  | whole hfits hwrites hwriter hok => exact ⟨fun _ => hfits, fun _ => hok⟩
  | refused next after hwrites hfits hnext hok =>
    rw [hwrites, writesSize_append, writesSize_cons, hok]
    exact ⟨fun h => (Bool.false_ne_true h).elim, fun h => by omega⟩

theorem longestFitting (h : Limited room free limited) : LongestFitting room free.writes limited.writes := by
  cases h with
  | whole hfits hwrites hwriter hok =>
    rw [hwrites]
    exact longestFitting_self hfits
  | refused next after hwrites hfits hnext hok =>
    rw [hwrites]
    exact longestFitting_before hfits hnext

theorem andThen (hfree : free.ok = true) (h : Limited room free limited) {next : Writer → Outcome}
    (hnext : ∀ room, Limited room (next free.writer) (next (free.writer.withRoom (some room)))) :
    Limited room (free.andThen next) (limited.andThen next) := by
  rw [andThen_of_ok hfree]
  cases h with
  | whole hfits hwrites hwriter hok =>
    -- What comes next has the room that is left.
    have hrest := hnext (room - writesSize free.writes)
    rw [andThen_of_ok hok, hwrites, hwriter]
    generalize next (free.writer.withRoom _) = rest at hrest ⊢
    cases hrest with
    | whole hfits' hwrites' hwriter' hok' =>
      have hsize := writesSize_append free.writes (next free.writer).writes
      have htotal : writesSize (free.writes ++ (next free.writer).writes) ≤ room := by omega
      refine .whole htotal (by rw [hwrites']) ?_ hok'
      rw [hwriter', hsize, Nat.sub_sub]
    | refused t after hwrites' hfits' hlarge hok' =>
      have hsize := writesSize_append free.writes rest.writes
      have htotal : writesSize (free.writes ++ rest.writes) ≤ room := by omega
      have hbeyond : room < writesSize (free.writes ++ rest.writes) + t.utf8Size := by omega
      refine .refused t after ?_ htotal hbeyond hok'
      rw [hwrites', List.append_assoc]
  | refused t after hwrites hfits hlarge hok =>
    rw [andThen_of_refused hok]
    refine .refused t (after ++ (next free.writer).writes) ?_ hfits hlarge hok
    rw [hwrites, List.append_assoc, List.cons_append]

theorem mapWriter {c : Writer → Writer} (hc : KeepsRoom c) (h : Limited room free limited) :
    Limited room (free.mapWriter c) (limited.mapWriter c) := by
  cases h with
  | whole hfits hwrites hwriter hok => exact .whole hfits hwrites ((congrArg c hwriter).trans (hc _ _)) hok
  | refused next after hwrites hfits hnext hok => exact .refused next after hwrites hfits hnext hok

end Limited

end Outcome

open Outcome

/-- Without a limit no write is refused, and a limit does no more than to end the writes. -/
structure OnlyLimited (f : Writer → Outcome) : Prop where
  ok : ∀ w, w.room = none → (f w).ok = true
  free : ∀ w, w.room = none → (f w).writer.room = none
  limited : ∀ w, w.room = none → ∀ room, Limited room (f w) (f (w.withRoom (some room)))

namespace OnlyLimited

variable {f g : Writer → Outcome}

theorem andThen (hf : OnlyLimited f) (hg : OnlyLimited g) : OnlyLimited fun w => (f w).andThen g := by
  refine ⟨fun w hw => ?_, fun w hw => ?_, fun w hw room => ?_⟩
  · rw [andThen_of_ok (hf.ok w hw)]
    exact hg.ok _ (hf.free w hw)
  · rw [andThen_of_ok (hf.ok w hw)]
    exact hg.free _ (hf.free w hw)
  · exact (hf.limited w hw room).andThen (hf.ok w hw) (hg.limited _ (hf.free w hw))

theorem change {c : Writer → Writer} (hc : KeepsRoom c) : OnlyLimited fun w => .done (c w) :=
  ⟨fun _ _ => rfl, fun w hw => (hc.room_eq w).trans hw,
    fun w _ room => .whole (Nat.zero_le room) rfl (hc w (some room)) rfl⟩

theorem done : OnlyLimited Outcome.done :=
  change fun _ _ => rfl

theorem after {c : Writer → Writer} (hc : KeepsRoom c) (hf : OnlyLimited f) : OnlyLimited fun w => f (c w) := by
  have hnone (w : Writer) (hw : w.room = none) : (c w).room = none := (hc.room_eq w).trans hw
  refine ⟨fun w hw => hf.ok _ (hnone w hw), fun w hw => hf.free _ (hnone w hw), fun w hw room => ?_⟩
  rw [hc w (some room)]
  exact hf.limited _ (hnone w hw) room

theorem mapWriter {c : Writer → Writer} (hc : KeepsRoom c) (hf : OnlyLimited f) :
    OnlyLimited fun w => (f w).mapWriter c :=
  ⟨hf.ok, fun w hw => (hc.room_eq _).trans (hf.free w hw), fun w hw room => (hf.limited w hw room).mapWriter hc⟩

/-- Writing may depend on the state of the writer, but not on its room. -/
theorem reading {α : Type} {p : Writer → α} (hp : ∀ w room, p (w.withRoom room) = p w) {f : α → Writer → Outcome}
    (hf : ∀ a, OnlyLimited (f a)) : OnlyLimited fun w => f (p w) w := by
  refine ⟨fun w => (hf (p w)).ok w, fun w => (hf (p w)).free w, fun w hw room => ?_⟩
  rw [hp w (some room)]
  exact (hf (p w)).limited w hw room

theorem send (t : Text) : OnlyLimited (·.send t) := by
  have hsend (w : Writer) (hw : w.room = none) : w.send t = ⟨[t], w, true⟩ := by rw [Writer.send, hw]
  refine ⟨fun w hw => ?_, fun w hw => ?_, fun w hw room => ?_⟩
  · rw [hsend w hw]
  · rw [hsend w hw]
    exact hw
  · have hlimited : (w.withRoom (some room)).send t =
        if t.utf8Size ≤ room then ⟨[t], w.withRoom (some (room - t.utf8Size)), true⟩
        else ⟨[], w.withRoom (some room), false⟩ := rfl
    have hsize : writesSize [t] = t.utf8Size := Nat.add_zero _
    rw [hsend w hw, hlimited]
    split
    next ht => exact .whole (hsize ▸ ht) rfl (by rw [hsize]) rfl
    next ht => exact .refused t [] rfl (Nat.zero_le room) (by simpa [writesSize] using ht) rfl

theorem sendTimes (t : Text) (times : Nat) : OnlyLimited (Writer.sendTimes t times) := by
  induction times with
  | zero => exact done
  | succ n ih => exact (send t).andThen ih

theorem startLine (t : Text) : OnlyLimited (Writer.startLine t) := by
  let start (state : Bool × Text × Nat) (w : Writer) : Outcome :=
    if state.1 && t.any fun c => !Text.isBlank c then
      (Writer.sendTimes state.2.1 state.2.2 w).andThen fun w => .done { w with atLineStart := false }
    else .done w
  refine reading (p := fun w => (w.atLineStart, w.unit, w.level)) (f := start) (fun _ _ => rfl) fun state => ?_
  unfold start
  split
  · exact (sendTimes _ _).andThen (change fun _ _ => rfl)
  · exact done

theorem write (t : Text) : OnlyLimited (Writer.write t) := by
  unfold Writer.write
  split
  · exact done
  · exact (startLine t).andThen (send t)

theorem newline : OnlyLimited Writer.newline :=
  (send ['\n']).andThen (change fun _ _ => rfl)

/-- A body is run one level deeper, and the level is taken back behind it. -/
theorem nested {body : List Step} (h : OnlyLimited (Step.runAll body)) : OnlyLimited (Step.nested body).run :=
  have hdeeper : KeepsRoom fun w => { w with level := w.level + 1 } := fun _ _ => rfl
  have hback : KeepsRoom fun w => { w with level := w.level - 1 } := fun _ _ => rfl
  (h.after hdeeper).mapWriter hback

end OnlyLimited

mutual

theorem Step.run_onlyLimited : ∀ step : Step, OnlyLimited step.run
  | .write t => .write t
  | .newline => .newline
  | .indent => .change fun _ _ => rfl
  | .dedent => .change Writer.keepsRoom_dedent
  | .nested body => (Step.runAll_onlyLimited body).nested

theorem Step.runAll_onlyLimited : ∀ code : List Step, OnlyLimited (Step.runAll code)
  | [] => .done
  | step :: code => (Step.run_onlyLimited step).andThen (Step.runAll_onlyLimited code)

end

/-- Of the writes that the code makes when none is refused, those are accepted that fit into the room, up to the first
one that does not. -/
theorem Step.runAll_longestFitting (code : List Step) (w : Writer) (limit : Nat) :
    let free := Step.runAll code (w.withRoom none)
    let limited := Step.runAll code (w.withRoom (some limit))
    free.ok = true ∧ (limited.ok = false ↔ limit < writesSize free.writes) ∧
      LongestFitting limit free.writes limited.writes := by
  intro free limited
  have hcode := Step.runAll_onlyLimited code
  have hlimited : Limited limit free limited := hcode.limited (w.withRoom none) rfl limit
  have hok := hlimited.ok_iff
  refine ⟨hcode.ok _ rfl, ?_, hlimited.longestFitting⟩
  rw [← Nat.not_le, ← hok, Bool.not_eq_true]

example : (Step.runAll (block "a" (line "b")) { unit := "  ", room := some 7 }).writes =
    ["a \x7b".toList, ['\n'], "  ".toList, "b".toList] := by decide

end SwiftConnections
