import SwiftConnections.Proofs.Swift.LimitedRoom

namespace SwiftConnections

/-- What changes the level of a writer. -/
inductive LevelEvent
  /-- A guard comes onto the stack. -/
  | push
  /-- The latest guard is dropped. -/
  | pop
  /-- The body of a block begins. -/
  | enter
  /-- A body was run to its end, or is given up behind a refused write. -/
  | leave
  deriving DecidableEq

/-- A moment in the run of several operations on one writer. -/
structure Moment where
  writer : Writer
  /-- What is left of the innermost body that is running, or of the operation if none is. -/
  code : List Step
  /-- What is left of the code around that body, from the inside to the outside. -/
  outer : List (List Step)
  /-- The operations behind the one that is running. -/
  later : List (List Step)
  /-- A write was refused, and the operation is being given up. -/
  refused : Bool

namespace Moment

/-- Before the first operation. -/
def start (operations : List (List Step)) (w : Writer) : Moment :=
  ⟨w, [], [], operations, false⟩

/-- The code has nothing more to do. -/
def IsThrough (m : Moment) : Prop :=
  m.refused = true ∨ m.code = []

theorem isThrough_of_ok {o : Outcome} {left : List Step} (outer later : List (List Step)) (h : o.ok = true → left = []) :
    IsThrough ⟨o.writer, left, outer, later, !o.ok⟩ := by
  cases hok : o.ok with
  | false => exact .inl rfl
  | true => exact .inr (h hok)

/-- The next moment on a sink that may accept or refuse any write. A refused write ends its operation, not the ones
behind it. -/
inductive Next : Moment → List LevelEvent → Moment → Prop
  | write {w t code outer later} (atLineStart : Bool) (room : Option Nat) (refused : Bool) :
    Next ⟨w, .write t :: code, outer, later, false⟩ [] ⟨{ w with atLineStart, room }, code, outer, later, refused⟩
  | newline {w code outer later} (atLineStart : Bool) (room : Option Nat) (refused : Bool) :
    Next ⟨w, .newline :: code, outer, later, false⟩ [] ⟨{ w with atLineStart, room }, code, outer, later, refused⟩
  | push {w code outer later} :
    Next ⟨w, .indent :: code, outer, later, false⟩ [.push] ⟨w.indent, code, outer, later, false⟩
  | pop {w code outer later} (h : w.guards ≠ 0) :
    Next ⟨w, .dedent :: code, outer, later, false⟩ [.pop] ⟨w.dedent, code, outer, later, false⟩
  | noGuard {w code outer later} (h : w.guards = 0) :
    Next ⟨w, .dedent :: code, outer, later, false⟩ [] ⟨w.dedent, code, outer, later, false⟩
  | enter {w body code outer later} : Next ⟨w, .nested body :: code, outer, later, false⟩ [.enter]
      ⟨{ w with level := w.level + 1 }, body, code :: outer, later, false⟩
  | leave {w rest code outer later refused} (h : IsThrough ⟨w, rest, code :: outer, later, refused⟩) :
    Next ⟨w, rest, code :: outer, later, refused⟩ [.leave] ⟨{ w with level := w.level - 1 }, code, outer, later, refused⟩
  | operation {w rest code later refused} (h : IsThrough ⟨w, rest, [], code :: later, refused⟩) :
    Next ⟨w, rest, [], code :: later, refused⟩ [] ⟨w, code, [], later, false⟩

/-- From one moment to a later one, with what happened to the level on the way. -/
inductive Leads : Moment → List LevelEvent → Moment → Prop
  | refl (m : Moment) : Leads m [] m
  | next {m m' m'' events more} (h : Next m events m') (h' : Leads m' more m'') : Leads m (events ++ more) m''

theorem Next.leads {m m' : Moment} {events : List LevelEvent} (h : Next m events m') : Leads m events m' := by
  have hone := Leads.next h (.refl m')
  rwa [List.append_nil] at hone

theorem Leads.trans {m m' m'' : Moment} {events more : List LevelEvent} (h : Leads m events m')
    (h' : Leads m' more m'') : Leads m (events ++ more) m'' := by
  induction h with
  | refl => exact h'
  | next hstep _ ih =>
    rw [List.append_assoc]
    exact .next hstep (ih h')

/-- One level for each guard on the stack and for each body that is running. -/
def IsLevel (m : Moment) : Prop :=
  m.writer.level = m.writer.guards + m.outer.length

section Step

variable {m m' : Moment} {events : List LevelEvent}

theorem Next.isLevel (h : Next m events m') (hm : m.IsLevel) : m'.IsLevel := by
  cases h with
  | write | newline | operation => exact hm
  | push =>
    simp only [IsLevel, Writer.indent] at hm ⊢
    omega
  | pop hguards =>
    simp only [IsLevel, Writer.dedent, if_neg hguards] at hm ⊢
    omega
  | noGuard hguards =>
    rw [IsLevel, Writer.dedent, if_pos hguards]
    exact hm
  | enter | leave =>
    simp only [IsLevel, List.length_cons] at hm ⊢
    omega

theorem Next.guards_eq (h : Next m events m') :
    m'.writer.guards + events.count .pop = m.writer.guards + events.count .push := by
  cases h with
  | write | newline | push | enter | leave | operation => rfl
  | pop hguards =>
    rw [Writer.dedent, if_neg hguards]
    exact Nat.sub_add_cancel (Nat.one_le_iff_ne_zero.mpr hguards)
  | noGuard hguards =>
    rw [Writer.dedent, if_pos hguards]
    rfl

/-- A level that is taken back is there. -/
theorem Next.level_of_drop (h : Next m events m') (hm : m.IsLevel) (hdrop : .pop ∈ events ∨ .leave ∈ events) :
    m'.writer.level + 1 = m.writer.level := by
  cases h with
  | write | newline | push | noGuard | enter | operation => simp at hdrop
  | pop hguards =>
    simp only [IsLevel, Writer.dedent, if_neg hguards] at hm ⊢
    omega
  | leave =>
    simp only [IsLevel, List.length_cons] at hm ⊢
    omega

theorem Leads.isLevel (h : Leads m events m') (hm : m.IsLevel) : m'.IsLevel := by
  induction h with
  | refl => exact hm
  | next hstep _ ih => exact ih (hstep.isLevel hm)

theorem Leads.guards_eq (h : Leads m events m') :
    m'.writer.guards + events.count .pop = m.writer.guards + events.count .push := by
  induction h with
  | refl => rfl
  | next hstep _ ih =>
    have hone := hstep.guards_eq
    rw [List.count_append, List.count_append]
    omega

/-- Between two moments inside the same bodies the level changes by the guards alone. -/
theorem Leads.level_eq (h : Leads m events m') (hm : m.IsLevel) (houter : m'.outer.length = m.outer.length) :
    m'.writer.level + events.count .pop = m.writer.level + events.count .push := by
  have hguards := h.guards_eq
  have hm' : m'.writer.level = m'.writer.guards + m'.outer.length := h.isLevel hm
  rw [IsLevel] at hm
  omega

end Step

end Moment

/-- The writing changes nothing but the state of the line and of the sink. -/
def KeepsLevel (f : Writer → Outcome) : Prop :=
  ∀ w, ∃ atLineStart room, (f w).writer = { w with atLineStart, room }

namespace KeepsLevel

theorem done : KeepsLevel Outcome.done :=
  fun w => ⟨w.atLineStart, w.room, rfl⟩

theorem setLineStart (b : Bool) : KeepsLevel fun w => .done { w with atLineStart := b } :=
  fun w => ⟨b, w.room, rfl⟩

theorem andThen {f g : Writer → Outcome} (hf : KeepsLevel f) (hg : KeepsLevel g) :
    KeepsLevel fun w => (f w).andThen g := by
  intro w
  obtain ⟨line, room, hw⟩ := hf w
  obtain ⟨line', room', hw'⟩ := hg (f w).writer
  cases hok : (f w).ok with
  | false =>
    simp only [Outcome.andThen_of_refused hok]
    exact ⟨line, room, hw⟩
  | true =>
    simp only [Outcome.andThen_of_ok hok]
    exact ⟨line', room', by rw [hw', hw]⟩

theorem send (t : Text) : KeepsLevel (·.send t) := by
  intro w
  simp only [Writer.send]
  split
  · exact done w
  · split
    next room _ _ => exact ⟨w.atLineStart, some (room - t.utf8Size), rfl⟩
    next => exact ⟨w.atLineStart, w.room, rfl⟩

theorem sendTimes (t : Text) (times : Nat) : KeepsLevel (Writer.sendTimes t times) := by
  induction times with
  | zero => exact done
  | succ n ih => exact (send t).andThen ih

theorem startLine (t : Text) : KeepsLevel (Writer.startLine t) := by
  intro w
  rw [Writer.startLine]
  split
  · exact (sendTimes w.unit w.level).andThen (setLineStart false) w
  · exact done w

theorem write (t : Text) : KeepsLevel (Writer.write t) := by
  intro w
  rw [Writer.write]
  split
  · exact done w
  · exact (startLine t).andThen (send t) w

theorem newline : KeepsLevel Writer.newline :=
  (send ['\n']).andThen (setLineStart true)

end KeepsLevel

/-- Running the code in front of `rest` leads to what `f` makes of the writer: behind the code, or somewhere in it if a
write was refused. -/
def RunsTo (f : Writer → Outcome) (code rest : List Step) : Prop :=
  ∀ w outer later, ∃ events left,
    Moment.Leads ⟨w, code, outer, later, false⟩ events ⟨(f w).writer, left, outer, later, !(f w).ok⟩ ∧
      ((f w).ok = true → left = rest)

namespace RunsTo

open Moment

theorem done (code : List Step) : RunsTo Outcome.done code code :=
  fun _ _ _ => ⟨[], code, .refl _, fun _ => rfl⟩

theorem andThen {f g : Writer → Outcome} {code mid rest : List Step} (hf : RunsTo f code mid) (hg : RunsTo g mid rest) :
    RunsTo (fun w => (f w).andThen g) code rest := by
  intro w outer later
  obtain ⟨events, left, hleads, hleft⟩ := hf w outer later
  cases hok : (f w).ok with
  | false =>
    simp only [Outcome.andThen_of_refused hok]
    exact ⟨events, left, hleads, fun h => absurd (hok.symm.trans h) Bool.false_ne_true⟩
  | true =>
    -- What comes next starts where the code in front of it ended.
    rw [hleft hok, hok] at hleads
    obtain ⟨more, left', hleads', hleft'⟩ := hg (f w).writer outer later
    simp only [Outcome.andThen_of_ok hok]
    exact ⟨events ++ more, left', hleads.trans hleads', hleft'⟩

theorem write (t : Text) (rest : List Step) : RunsTo (Step.write t).run (.write t :: rest) rest := by
  intro w outer later
  obtain ⟨line, room, hw⟩ := KeepsLevel.write t w
  have hnext : Next ⟨w, .write t :: rest, outer, later, false⟩ [] ⟨(w.write t).writer, rest, outer, later, !(w.write t).ok⟩ :=
    hw ▸ .write line room _
  exact ⟨[], rest, hnext.leads, fun _ => rfl⟩

theorem newline (rest : List Step) : RunsTo Step.newline.run (.newline :: rest) rest := by
  intro w outer later
  obtain ⟨line, room, hw⟩ := KeepsLevel.newline w
  have hnext : Next ⟨w, .newline :: rest, outer, later, false⟩ [] ⟨w.newline.writer, rest, outer, later, !w.newline.ok⟩ :=
    hw ▸ .newline line room _
  exact ⟨[], rest, hnext.leads, fun _ => rfl⟩

theorem indent (rest : List Step) : RunsTo Step.indent.run (.indent :: rest) rest :=
  fun _ _ _ => ⟨[.push], rest, Next.push.leads, fun _ => rfl⟩

theorem dedent (rest : List Step) : RunsTo Step.dedent.run (.dedent :: rest) rest := by
  intro w outer later
  by_cases hguards : w.guards = 0
  · exact ⟨[], rest, (Next.noGuard hguards).leads, fun _ => rfl⟩
  · exact ⟨[.pop], rest, (Next.pop hguards).leads, fun _ => rfl⟩

/-- A body is left at its end, or wherever a write was refused, and the code around it takes over. -/
theorem nested {body : List Step} (h : RunsTo (Step.runAll body) body []) (rest : List Step) :
    RunsTo (Step.nested body).run (.nested body :: rest) rest := by
  intro w outer later
  obtain ⟨events, left, hbody, hleft⟩ := h { w with level := w.level + 1 } (rest :: outer) later
  rw [Step.run]
  generalize Step.runAll body { w with level := w.level + 1 } = o at hbody hleft ⊢
  have hthrough := isThrough_of_ok (rest :: outer) later hleft
  exact ⟨_, rest, (Next.enter.leads.trans hbody).trans (Next.leave hthrough).leads, fun _ => rfl⟩

end RunsTo

mutual

theorem Step.run_runsTo : ∀ (step : Step) (rest : List Step), RunsTo step.run (step :: rest) rest
  | .write t, rest => .write t rest
  | .newline, rest => .newline rest
  | .indent, rest => .indent rest
  | .dedent, rest => .dedent rest
  | .nested body, rest => (Step.runAll_runsTo body).nested rest

theorem Step.runAll_runsTo : ∀ code : List Step, RunsTo (Step.runAll code) code []
  | [] => .done []
  | step :: code => (Step.run_runsTo step code).andThen (Step.runAll_runsTo code)

end

/-- The writer behind several operations, whatever each of them comes to. -/
def Writer.afterAll (operations : List (List Step)) (w : Writer) : Writer :=
  operations.foldl (fun w code => (Step.runAll code w).writer) w

namespace Moment

/-- No operation is running, and none is left. -/
structure IsOver (m : Moment) : Prop where
  through : m.IsThrough
  outer : m.outer = []
  later : m.later = []

theorem leads_afterAll {m : Moment} (hthrough : m.IsThrough) (houter : m.outer = []) :
    ∃ events m', m.Leads events m' ∧ m'.IsOver ∧ m'.writer = m.writer.afterAll m.later := by
  obtain ⟨w, rest, outer, operations, refused⟩ := m
  subst houter
  induction operations generalizing w rest refused with
  | nil => exact ⟨[], _, .refl _, ⟨hthrough, rfl, rfl⟩, rfl⟩
  | cons code operations ih =>
    obtain ⟨events, left, hleads, hleft⟩ := Step.runAll_runsTo code w [] operations
    obtain ⟨more, m', hmore, hover⟩ := ih _ left _ (isThrough_of_ok [] operations hleft)
    exact ⟨_, m', ((Next.operation hthrough).leads.trans hleads).trans hmore, hover⟩

/-- A block gives back the level that it found, but for the guards that its body leaves on the stack or takes from it. -/
theorem IsLevel.block {m : Moment} (hm : m.IsLevel) (header : Text) (body : List Step) :
    let after := (Step.runAll (SwiftConnections.block header body) m.writer).writer
    after.level + m.writer.guards = m.writer.level + after.guards := by
  intro after
  obtain ⟨events, left, hleads, -⟩ := Step.runAll_runsTo (SwiftConnections.block header body) m.writer m.outer []
  have hafter : after.level = after.guards + m.outer.length := hleads.isLevel hm
  rw [IsLevel] at hm
  omega

end Moment

/-- Whatever a sink accepts and refuses, the level of a new writer is at each moment the number of the guards on the stack
and of the bodies that are running. What drops a guard or leaves a body takes back a level that is there. Behind a block
the level is what it was before it, with the guards that were pushed inside and without those that were dropped there,
whether the block came to its end or not. The run of the operations on the writer's own sink is one of these runs. -/
theorem level_counts_guards (unit : Text) (room : Option Nat) (operations : List (List Step)) :
    let first := Moment.start operations { unit, room }
    (∀ events m, first.Leads events m →
      m.writer.level = m.writer.guards + m.outer.length ∧
      m.writer.guards + events.count .pop = events.count .push ∧
      (∀ now m', m.Next now m' → .pop ∈ now ∨ .leave ∈ now → m'.writer.level + 1 = m.writer.level) ∧
      (∀ inside m', m.Leads inside m' → m'.outer.length = m.outer.length →
        m'.writer.level + inside.count .pop = m.writer.level + inside.count .push) ∧
      ∀ header body, let after := (Step.runAll (block header body) m.writer).writer
        after.level + m.writer.guards = m.writer.level + after.guards) ∧
    ∃ events m, first.Leads events m ∧ m.IsOver ∧ m.writer = Writer.afterAll operations { unit, room } := by
  intro first
  refine ⟨fun events m hm => ?_, Moment.leads_afterAll (.inr rfl) rfl⟩
  have hfirst : first.IsLevel := rfl
  have hlevel : m.IsLevel := hm.isLevel hfirst
  have hguards : m.writer.guards + events.count .pop = 0 + events.count .push := hm.guards_eq
  rw [Nat.zero_add] at hguards
  exact ⟨hlevel, hguards, fun _ _ hnext hdrop => hnext.level_of_drop hlevel hdrop,
    fun _ _ hinside houter => hinside.level_eq hlevel houter, hlevel.block⟩

/-- The write inside the block is refused before the guard that was pushed there is dropped. -/
theorem level_counts_guards_refused :
    let operations := [[.indent], block "a" [.indent, .write "b", .dedent]]
    let w := Writer.afterAll operations { unit := "  ", room := some 7 }
    w.level = 2 ∧ w.guards = 2 ∧ ∃ events m, (Moment.start operations { unit := "  ", room := some 7 }).Leads events m ∧
      m.IsOver ∧ m.writer.level = 2 + m.outer.length ∧ events.count .push = 2 + events.count .pop := by
  intro operations w
  obtain ⟨hall, events, m, hleads, hover, hm⟩ := level_counts_guards "  " (some 7) operations
  obtain ⟨hlevel, hguards, -⟩ := hall events m hleads
  have htwo : m.writer.guards = 2 := hm ▸ (by decide : w.guards = 2)
  rw [htwo] at hlevel hguards
  exact ⟨by decide, by decide, events, m, hleads, hover, hlevel, hguards.symm⟩

end SwiftConnections
