import SwiftConnections.Plugin.Run

namespace SwiftConnections

namespace Sink

/-- The sink once it has taken some bytes. -/
def after (sink : Sink) (part : Bytes) : Sink :=
  { sink with room := sink.room.map (· - part.length) }

/-- The sink takes some bytes in turns: a turn takes a first part of what is left, as long as there is room for
it, and with no room left the rest is refused. The last argument tells whether all was taken. -/
inductive Takes : Sink → Bytes → Bytes → Bool → Prop
  | done (sink : Sink) : Takes sink [] [] true
  | refused {sink : Sink} {bytes : Bytes} (hroom : sink.room = some 0) (hne : bytes ≠ []) :
      Takes sink bytes [] false
  | turn {sink : Sink} {part rest taken : Bytes} {all : Bool} (hroom : ∀ n ∈ sink.room, part.length ≤ n)
      (hne : part ≠ []) (h : Takes (sink.after part) rest taken all) : Takes sink (part ++ rest) (part ++ taken) all

theorem accepted_none {sink : Sink} (h : sink.room = none) (bytes : Bytes) : sink.accepted bytes = bytes := by
  rw [accepted, h]

theorem accepted_some {sink : Sink} {n : Nat} (h : sink.room = some n) (bytes : Bytes) :
    sink.accepted bytes = bytes.take n := by
  rw [accepted, h]

theorem accepted_append {sink : Sink} {part : Bytes} (h : ∀ n ∈ sink.room, part.length ≤ n) (rest : Bytes) :
    sink.accepted (part ++ rest) = part ++ (sink.after part).accepted rest := by
  cases hroom : sink.room with
  | none =>
    have hafter : (sink.after part).room = none := by rw [after, hroom, Option.map_none]
    rw [accepted_none hroom, accepted_none hafter]
  | some n =>
    have hafter : (sink.after part).room = some (n - part.length) := by rw [after, hroom, Option.map_some]
    rw [accepted_some hroom, accepted_some hafter, List.take_append, List.take_of_length_le (h n hroom)]

/-- The number of bytes that a sink takes is its room, if there are that many. -/
theorem accepted_eq_take (sink : Sink) (bytes : Bytes) :
    sink.accepted bytes = bytes.take (min (sink.room.getD bytes.length) bytes.length) := by
  cases hroom : sink.room with
  | none => rw [accepted_none hroom, Option.getD_none, Nat.min_self, List.take_length]
  | some n => rw [accepted_some hroom, Option.getD_some, ← List.take_take, List.take_length]

theorem accepted_isPrefix (sink : Sink) (bytes : Bytes) : sink.accepted bytes <+: bytes := by
  rw [accepted_eq_take]
  exact List.take_prefix _ _

theorem accepted_eq_self_iff {sink : Sink} {bytes : Bytes} :
    sink.accepted bytes = bytes ↔ ∀ n ∈ sink.room, bytes.length ≤ n := by
  constructor
  · intro h n hn
    rw [accepted_some hn] at h
    rw [← h]
    exact List.length_take_le n bytes
  · intro h
    cases hroom : sink.room with
    | none => exact accepted_none hroom bytes
    | some n => rw [accepted_some hroom, List.take_of_length_le (h n hroom)]

theorem Takes.accepted {sink : Sink} {bytes taken : Bytes} {all : Bool} (h : sink.Takes bytes taken all) :
    taken = sink.accepted bytes ∧ (all = true ↔ taken = bytes) := by
  induction h with
  | done sink =>
    have hnil : sink.accepted [] = [] := by rw [accepted_eq_take, List.take_nil]
    exact ⟨hnil.symm, by simp⟩
  | refused hroom hne => exact ⟨(accepted_some hroom _).symm, by simpa using hne.symm⟩
  | turn hroom hne h ih =>
    obtain ⟨htaken, hall⟩ := ih
    exact ⟨by rw [accepted_append hroom, htaken], by rw [hall, List.append_cancel_left_eq]⟩

/-- At most one turn has to be made before all is taken. -/
theorem takes_of_room {sink : Sink} {bytes : Bytes} (h : ∀ n ∈ sink.room, bytes.length ≤ n) :
    sink.Takes bytes bytes true := by
  by_cases hnil : bytes = []
  · rw [hnil]
    exact .done sink
  · have hturn := Takes.turn h hnil (.done (sink.after bytes))
    rwa [List.append_nil] at hturn

/-- At most one turn has to be made before the rest is refused. -/
theorem takes_of_lt {sink : Sink} {bytes : Bytes} {n : Nat} (hroom : sink.room = some n) (h : n < bytes.length) :
    sink.Takes bytes (bytes.take n) false := by
  have hlength : (bytes.take n).length = n := List.length_take_of_le (Nat.le_of_lt h)
  have hrest : bytes.drop n ≠ [] := by
    rw [Ne, List.drop_eq_nil_iff]
    omega
  by_cases hzero : n = 0
  · rw [hzero] at hroom ⊢
    exact .refused hroom (List.ne_nil_of_length_pos (by omega))
  · have hafter : (sink.after (bytes.take n)).room = some 0 := by
      rw [after, hroom, Option.map_some, hlength, Nat.sub_self]
    have hpart : bytes.take n ≠ [] := List.ne_nil_of_length_pos (by omega)
    have hturn := Takes.turn (fun m hm => ?_) hpart (.refused hafter hrest)
    · rwa [List.take_append_drop, List.append_nil] at hturn
    · rw [hroom, Option.mem_some_iff] at hm
      omega

/-- However many turns it takes, a sink takes the bytes that it accepts. -/
theorem takes_iff {sink : Sink} {bytes taken : Bytes} {all : Bool} :
    sink.Takes bytes taken all ↔ taken = sink.accepted bytes ∧ (all = true ↔ taken = bytes) := by
  refine ⟨Takes.accepted, ?_⟩
  rintro ⟨rfl, hall⟩
  cases all with
  | true =>
    have hself := hall.mp rfl
    rw [hself]
    exact takes_of_room (accepted_eq_self_iff.mp hself)
  | false =>
    have hself : sink.accepted bytes ≠ bytes := fun h => Bool.false_ne_true (hall.mpr h)
    rw [Ne, accepted_eq_self_iff] at hself
    simp only [Classical.not_forall, Nat.not_le, exists_prop] at hself
    obtain ⟨n, hroom, hlt⟩ := hself
    rw [accepted_some hroom]
    exact takes_of_lt hroom hlt

/-- A sink succeeds if it takes everything and can pass it on. -/
theorem succeeds_iff (sink : Sink) (bytes : Bytes) :
    sink.succeeds bytes = true ↔ sink.accepted bytes = bytes ∧ sink.flushFails = false := by
  have hlength : (sink.accepted bytes).length = bytes.length ↔ sink.accepted bytes = bytes :=
    ⟨(accepted_isPrefix sink bytes).eq_of_length, congrArg List.length⟩
  rw [succeeds, Bool.and_eq_true, decide_eq_true_iff, hlength, Bool.not_eq_true']

end Sink

end SwiftConnections
