import SwiftConnections.Proofs.Identifiers
import SwiftConnections.Proofs.Text.Occurrence
import SwiftConnections.Toml.Quoted
import SwiftConnections.Toml.Writer

namespace SwiftConnections

/-- The text is a way to write the character between quotation marks, whatever follows it. -/
inductive Spells (c : Char) : Text → Prop
  | plain (h : isPlain c = true) (hmark : c ≠ '"') (hslash : c ≠ '\\') : Spells c [c]
  | letter {e : Char} (h : escapeOf? e = some c) : Spells c ['\\', e]
  | code {d₁ d₂ d₃ d₄ : Char} (h : charOfHex? [d₁, d₂, d₃, d₄] = some c) : Spells c ['\\', 'u', d₁, d₂, d₃, d₄]

theorem ne_lineEnd_of_isPlain {c : Char} (h : isPlain c = true) : c ≠ '\n' ∧ c ≠ '\r' := by
  constructor <;> rintro rfl <;> simp [isPlain] at h

namespace Spells

variable {c : Char} {w : Text}

theorem ne_code {e : Char} (h : escapeOf? e = some c) : e ≠ 'x' ∧ e ≠ 'u' ∧ e ≠ 'U' := by
  refine ⟨?_, ?_, ?_⟩ <;> rintro rfl <;> simp [escapeOf?] at h

/-- It begins with a character that neither ends a string nor ends a line. -/
theorem eq_cons (h : Spells c w) : ∃ d w', w = d :: w' ∧ d ≠ '"' ∧ d ≠ '\n' ∧ d ≠ '\r' := by
  cases h with
  | plain h hmark hslash => exact ⟨c, [], rfl, hmark, ne_lineEnd_of_isPlain h⟩
  | letter h => exact ⟨'\\', _, rfl, by decide⟩
  | code h => exact ⟨'\\', _, rfl, by decide⟩

theorem read_basic (h : Spells c w) (rest : Text) : readBasic? (w ++ rest) = (readBasic? rest).map (consRead c) := by
  cases h with
  | plain h hmark hslash => simp [readBasic?, h, hslash]
  | letter h =>
    obtain ⟨hx, hu, hU⟩ := ne_code h
    simp [readBasic?, h, hx, hu, hU]
  | code h => simp [readBasic?, h]

theorem read_basicLines (h : Spells c w) (rest : Text) :
    readBasicLines? false (w ++ rest) = (readBasicLines? false rest).map (consRead c) := by
  cases h with
  | plain h hmark hslash =>
    obtain ⟨hfeed, hreturn⟩ := ne_lineEnd_of_isPlain h
    simp [readBasicLines?, h, hmark, hslash, hreturn]
  | letter h =>
    obtain ⟨hx, hu, hU⟩ := ne_code h
    simp [readBasicLines?, h, hx, hu, hU]
  | code h => simp [readBasicLines?, h]

end Spells

theorem lt_of_isControl {c : Char} (h : isControl c = true) : c.toNat < 128 := by
  simp only [isControl, Bool.or_eq_true, Bool.and_eq_true, decide_eq_true_eq] at h
  rcases h with ⟨⟨h, -⟩, -⟩ | rfl
  · have hlow : c.toNat < ' '.toNat := h
    exact Nat.lt_trans hlow (by decide)
  · decide

/-- A control character is read back from the digits of its code. -/
theorem charOfHex?_control {c : Char} (h : isControl c = true) :
    charOfHex? ['0', '0', capitalHexDigit (c.toNat / 16), capitalHexDigit (c.toNat % 16)] = some c := by
  have hc := lt_of_isControl h
  revert h
  exact ascii_induction (P := fun c => isControl c = true →
    charOfHex? ['0', '0', capitalHexDigit (c.toNat / 16), capitalHexDigit (c.toNat % 16)] = some c)
    (by decide) hc

theorem spells_controlEscape {c : Char} (h : isControl c = true ∨ c = '\t' ∨ c = '\n') :
    Spells c (controlEscape c) := by
  unfold controlEscape
  split
  next => exact .letter rfl
  next => exact .letter rfl
  next => exact .letter rfl
  next => exact .letter rfl
  next => exact .letter rfl
  next _ htab hfeed _ _ =>
    have hcontrol := h.resolve_right (not_or.mpr ⟨htab, hfeed⟩)
    exact .code (charOfHex?_control hcontrol)

theorem isPlain_of_not_isControl {c : Char} (h : isControl c = false) (hfeed : c ≠ '\n') : isPlain c = true := by
  simp only [isControl, Bool.or_eq_false_iff, Bool.and_eq_false_iff, decide_eq_false_iff_not, Decidable.not_not] at h
  simp only [isPlain, Bool.or_eq_true, Bool.and_eq_true, decide_eq_true_eq]
  rcases h with ⟨(hlow | htab) | hline, hdelete⟩
  · exact .inr ⟨Char.not_lt.mp hlow, hdelete⟩
  · exact .inl htab
  · exact absurd hline hfeed

/-- What the writer makes of one character. A quotation mark may stand as it is if not too many stand before it, and
so may a line feed in text over several lines. -/
inductive WritesChar (free run : Nat) (c : Char) (t : Text) : Text → Prop
  | mark (hc : c = '"') (h : run < free) : WritesChar free run c t (c :: writeBasic free (run + 1) t)
  | lineFeed (hc : c = '\n') (h : 0 < free) : WritesChar free run c t (c :: writeBasic free 0 t)
  | spelled {w : Text} (h : Spells c w) : WritesChar free run c t (w ++ writeBasic free 0 t)

theorem writesChar (free run : Nat) (c : Char) (t : Text) : WritesChar free run c t (writeBasic free run (c :: t)) := by
  rw [writeBasic]
  by_cases hmark : c = '"'
  · rw [if_pos hmark]
    by_cases hrun : run < free
    · rw [if_pos hrun]
      exact .mark hmark hrun
    · rw [if_neg hrun]
      exact .spelled (hmark ▸ .letter rfl)
  rw [if_neg hmark]
  by_cases hslash : c = '\\'
  · rw [if_pos hslash]
    exact .spelled (hslash ▸ .letter rfl)
  rw [if_neg hslash]
  split
  next h =>
    simp only [Bool.or_eq_true, Bool.and_eq_true, decide_eq_true_eq] at h
    exact .spelled (spells_controlEscape (or_assoc.mp (h.imp_right And.left)))
  next h =>
    simp only [Bool.or_eq_true, Bool.and_eq_true, decide_eq_true_eq, not_or, not_and, Bool.not_eq_true] at h
    obtain ⟨⟨hcontrol, -⟩, hline⟩ := h
    by_cases hfeed : c = '\n'
    · exact .lineFeed hfeed (Nat.pos_of_ne_zero (hline hfeed))
    · exact .spelled (.plain (isPlain_of_not_isControl hcontrol hfeed) hmark hslash)

/-- Escaped marks do not end a string, so all of it is read up to the mark behind it. -/
theorem readBasic?_writeBasic (run : Nat) (t rest : Text) :
    readBasic? (writeBasic 0 run t ++ '"' :: rest) = some (t, rest) := by
  induction t generalizing run with
  | nil => simp [writeBasic, readBasic?]
  | cons c t ih =>
    have hwritten := writesChar 0 run c t
    generalize writeBasic 0 run (c :: t) = u at hwritten ⊢
    cases hwritten with
    | mark _ h => exact absurd h (Nat.not_lt_zero run)
    | lineFeed _ h => exact absurd h (Nat.lt_irrefl 0)
    | spelled h =>
      rw [List.append_assoc, h.read_basic, ih]
      rfl

/-- Three marks end what is read, up to two more marks before them belong to it, and so does any other mark. -/
structure EndsAtMarks (m : Char) (read? : Text → Option (Text × Text)) : Prop where
  last {rest : Text} (h : rest.head? ≠ some m) : read? (m :: m :: m :: rest) = some ([], rest)
  last_one {rest : Text} (h : rest.head? ≠ some m) : read? (m :: m :: m :: m :: rest) = some ([m], rest)
  last_two {rest : Text} (h : rest.head? ≠ some m) : read? (m :: m :: m :: m :: m :: rest) = some ([m, m], rest)
  inside {u : Text} (h : ¬ [m, m] <+: u) : read? (m :: u) = (read? u).map (consRead m)

namespace EndsAtMarks

variable {m : Char} {read? : Text → Option (Text × Text)} {u rest : Text}

/-- A mark with fewer than two marks behind it is read as part of the text, also right before the marks that end it. -/
theorem mark (hread : EndsAtMarks m read?) (h : ¬ [m, m] <+: u) (hrest : rest.head? ≠ some m) :
    read? (m :: (u ++ m :: m :: m :: rest)) = (read? (u ++ m :: m :: m :: rest)).map (consRead m) := by
  rcases u with _ | ⟨c, _ | ⟨d, u⟩⟩
  · rw [List.nil_append, hread.last hrest, hread.last_one hrest]
    rfl
  · by_cases hc : m = c
    · subst hc
      rw [List.singleton_append, hread.last_one hrest, hread.last_two hrest]
      rfl
    · exact hread.inside (by simp [hc])
  · refine hread.inside fun hp => h ?_
    simpa using hp

end EndsAtMarks

theorem endsAtMarks_basicLines : EndsAtMarks '"' (readBasicLines? false) where
  last h := by
    rw [readBasicLines?]
    all_goals grind
  last_one h := by
    rw [readBasicLines?]
    all_goals grind
  last_two h := by rw [readBasicLines?]
  inside h := by
    rw [readBasicLines?]
    · rfl
    all_goals grind

theorem endsAtMarks_literalLines : EndsAtMarks '\'' readLiteralLines? where
  last h := by
    rw [readLiteralLines?]
    all_goals grind
  last_one h := by
    rw [readLiteralLines?]
    all_goals grind
  last_two h := by rw [readLiteralLines?]
  inside h := by
    rw [readLiteralLines?]
    · rfl
    all_goals grind

/-- The first written character tells where the writer stands: only a free mark stands as it is, and a line end only
as a line feed of the text. -/
theorem writeBasic_head {free run : Nat} {t : Text} {d : Char} (h : (writeBasic free run t).head? = some d) :
    (d = '"' → run < free) ∧ (d = '\n' → '\n' ∈ t) ∧ d ≠ '\r' := by
  cases t with
  | nil => simp [writeBasic] at h
  | cons c t =>
    have hwritten := writesChar free run c t
    generalize writeBasic free run (c :: t) = u at hwritten h
    cases hwritten with
    | mark hc hrun =>
      cases h
      subst hc
      exact ⟨fun _ => hrun, nofun, by decide⟩
    | lineFeed hc _ =>
      cases h
      subst hc
      exact ⟨nofun, fun _ => List.mem_cons_self, by decide⟩
    | spelled hw =>
      obtain ⟨e, w, rfl, hmark, hfeed, hreturn⟩ := hw.eq_cons
      cases h
      exact ⟨fun heq => absurd heq hmark, fun heq => absurd heq hfeed, hreturn⟩

theorem not_marks_isPrefix_writeBasic (run : Nat) (t : Text) : ¬ ['"', '"'] <+: writeBasic 2 (run + 1) t := by
  cases t with
  | nil => simp [writeBasic]
  | cons c t =>
    have hwritten := writesChar 2 (run + 1) c t
    generalize writeBasic 2 (run + 1) (c :: t) = u at hwritten ⊢
    cases hwritten with
    | mark _ hrun =>
      rw [List.cons_prefix_cons]
      rintro ⟨-, more, hmore⟩
      have hhead : (writeBasic 2 (run + 1 + 1) t).head? = some '"' := by rw [← hmore]; rfl
      have hnext := (writeBasic_head hhead).1 rfl
      omega
    | lineFeed hc _ =>
      subst hc
      simp
    | spelled hw =>
      obtain ⟨d, w, rfl, hd, -⟩ := hw.eq_cons
      simp [Ne.symm hd]

/-- In text over several lines, the marks that end it are the first ones that may end it. -/
theorem readBasicLines?_writeBasic (run : Nat) {t rest : Text} (h : rest.head? ≠ some '"') :
    readBasicLines? false (writeBasic 2 run t ++ '"' :: '"' :: '"' :: rest) = some (t, rest) := by
  induction t generalizing run with
  | nil => exact endsAtMarks_basicLines.last h
  | cons c t ih =>
    have hwritten := writesChar 2 run c t
    generalize writeBasic 2 run (c :: t) = u at hwritten ⊢
    cases hwritten with
    | mark hc _ =>
      subst hc
      rw [List.cons_append, endsAtMarks_basicLines.mark (not_marks_isPrefix_writeBasic run t) h, ih]
      rfl
    | lineFeed hc _ =>
      subst hc
      rw [List.cons_append, readBasicLines?, if_neg (by decide), ih]
      rfl
    | spelled hw =>
      rw [List.append_assoc, hw.read_basicLines, ih]
      rfl

theorem readLiteral?_append {t rest : Text} (h : ∀ c ∈ t, isPlain c = true ∧ c ≠ '\'') :
    readLiteral? (t ++ '\'' :: rest) = some (t, rest) := by
  induction t with
  | nil => simp [readLiteral?]
  | cons c t ih =>
    obtain ⟨⟨hplain, hmark⟩, ht⟩ := List.forall_mem_cons.mp h
    simp [readLiteral?, hplain, ih ht, consRead]

/-- Text over several lines without three apostrophes in a row is read up to the apostrophes behind it. -/
theorem readLiteralLines?_append {t rest : Text} (hplain : ∀ c ∈ t, isPlain c = true ∨ c = '\n')
    (hmarks : ¬ ['\'', '\'', '\''] <:+: t) (hrest : rest.head? ≠ some '\'') :
    readLiteralLines? (t ++ '\'' :: '\'' :: '\'' :: rest) = some (t, rest) := by
  induction t with
  | nil => exact endsAtMarks_literalLines.last hrest
  | cons c t ih =>
    obtain ⟨hc, ht⟩ := List.forall_mem_cons.mp hplain
    rw [List.infix_cons_iff, not_or, List.cons_prefix_cons] at hmarks
    have hread := ih ht hmarks.2
    by_cases hmark : c = '\''
    · subst hmark
      rw [List.cons_append, endsAtMarks_literalLines.mark (fun hp => hmarks.1 ⟨rfl, hp⟩) hrest, hread]
      rfl
    rcases hc with hc | rfl
    · obtain ⟨hfeed, hreturn⟩ := ne_lineEnd_of_isPlain hc
      simp [readLiteralLines?, hc, hmark, hreturn, hread, consRead]
    · simp [readLiteralLines?, hread, consRead]

theorem dropNewline_of_head {t : Text} (hfeed : t.head? ≠ some '\n') (hreturn : t.head? ≠ some '\r') :
    t.dropNewline = t := by
  unfold Text.dropNewline Text.afterNewline?
  split <;> simp_all

/-- What may stand between the marks and a text over lines: a line feed, or nothing in front of a text of one line. -/
def LineStart (start t : Text) : Prop :=
  start = ['\n'] ∨ start = [] ∧ '\n' ∉ t

/-- The line feed behind the marks is left out, and no line end of the text is. -/
theorem LineStart.dropNewline {start t u rest : Text} {m : Char} (h : LineStart start t)
    (hhead : ∀ {d}, u.head? = some d → (d = '\n' → '\n' ∈ t) ∧ d ≠ '\r') (hfeed : m ≠ '\n') (hreturn : m ≠ '\r') :
    Text.dropNewline (start ++ (u ++ m :: rest)) = u ++ m :: rest := by
  rcases h with rfl | ⟨rfl, ht⟩
  · rfl
  · rcases u with _ | ⟨d, u⟩
    · exact dropNewline_of_head (by simpa using hfeed) (by simpa using hreturn)
    · obtain ⟨hd, hd'⟩ := hhead rfl
      exact dropNewline_of_head (by simpa using mt hd ht) (by simpa using hd')

/-- The text as a string: with escapes or as it is, within a line or over lines. -/
inductive Quoted (t : Text) : Text → Prop
  | basic : Quoted t ("\"" ++ writeBasic 0 0 t ++ "\"")
  | literal (h : ∀ c ∈ t, isPlain c = true ∧ c ≠ '\'') : Quoted t ("'" ++ t ++ "'")
  | basicLines {start : Text} (h : LineStart start t) : Quoted t ("\"\"\"" ++ start ++ writeBasic 2 0 t ++ "\"\"\"")
  | literalLines {start : Text} (h : LineStart start t) (hplain : ∀ c ∈ t, isPlain c = true ∨ c = '\n')
    (hmarks : ¬ ['\'', '\'', '\''] <:+: t) : Quoted t ("'''" ++ start ++ t ++ "'''")

theorem quoted_writeQuoted (t : Text) : Quoted t (writeQuoted t) := by
  have hplain (h : t.any isControl = false) {c : Char} (hc : c ∈ t) : c ≠ '\n' → isPlain c = true :=
    isPlain_of_not_isControl (Bool.eq_false_iff.mpr (List.any_eq_false.mp h c hc))
  unfold writeQuoted
  extract_lets control newline
  have hstart : LineStart newline t := by
    by_cases h : '\n' ∈ t
    · exact .inl (if_pos h)
    · exact .inr ⟨if_neg h, h⟩
  clear_value newline
  split
  next => exact .basic
  split
  next h =>
    simp only [Bool.and_eq_true, Bool.not_eq_true', List.any_eq_false, Bool.or_eq_true, decide_eq_true_eq, not_or] at h
    exact .literal fun c hc => ⟨hplain h.1 hc (h.2 c hc).2, (h.2 c hc).1⟩
  split
  next => exact .basicLines hstart
  split
  next h =>
    simp only [Bool.and_eq_true, Bool.not_eq_true'] at h
    have hmarks : ¬ ['\'', '\'', '\''] <:+: t := mt Text.contains_iff_infix.mpr (Bool.eq_false_iff.mp h.2)
    exact .literalLines hstart (fun c hc => (Decidable.em (c = '\n')).symm.imp_left (hplain h.1 hc)) hmarks
  split
  next => exact .basicLines (.inl rfl)
  next => exact .basic

theorem readQuoted?_basic {u : Text} (h : ¬ ['"', '"'] <+: u) : readQuoted? ('"' :: u) = readBasic? u := by
  rw [readQuoted?]
  rintro more rfl
  exact h (by simp)

theorem readQuoted?_literal {u : Text} (h : ¬ ['\'', '\''] <+: u) : readQuoted? ('\'' :: u) = readLiteral? u := by
  rw [readQuoted?]
  rintro more rfl
  exact h (by simp)

/-- A text without a mark at its start, the mark that ends it and no second one: these are not two marks. -/
theorem not_marks_isPrefix_closed {m : Char} {u rest : Text} (h : u.head? ≠ some m) (hrest : rest.head? ≠ some m) :
    ¬ [m, m] <+: u ++ m :: rest := by
  rcases u with _ | ⟨c, u⟩
  · rcases rest with _ | ⟨d, rest⟩
    · simp
    · simpa [eq_comm] using hrest
  · intro hp
    exact h (by simp [(List.cons_prefix_cons.mp hp).1])

/-- A string is read as the text that it was written for, up to a character that is no mark. -/
theorem readQuoted?_writeQuoted (t : Text) {rest : Text} (hmark : rest.head? ≠ some '"')
    (hapostrophe : rest.head? ≠ some '\'') : readQuoted? (writeQuoted t ++ rest) = some (t, rest) := by
  have hquoted := quoted_writeQuoted t
  generalize writeQuoted t = u at hquoted ⊢
  cases hquoted with
  | basic =>
    have hopen : (writeBasic 0 0 t).head? ≠ some '"' := fun h => absurd ((writeBasic_head h).1 rfl) (Nat.lt_irrefl 0)
    calc readQuoted? ("\"" ++ writeBasic 0 0 t ++ "\"" ++ rest)
        = readQuoted? ('"' :: (writeBasic 0 0 t ++ '"' :: rest)) := by simp
      _ = readBasic? (writeBasic 0 0 t ++ '"' :: rest) := readQuoted?_basic (not_marks_isPrefix_closed hopen hmark)
      _ = some (t, rest) := readBasic?_writeBasic 0 t rest
  | literal h =>
    have hopen : t.head? ≠ some '\'' := fun hc => (h _ (List.mem_of_head? hc)).2 rfl
    calc readQuoted? ("'" ++ t ++ "'" ++ rest)
        = readQuoted? ('\'' :: (t ++ '\'' :: rest)) := by simp
      _ = readLiteral? (t ++ '\'' :: rest) := readQuoted?_literal (not_marks_isPrefix_closed hopen hapostrophe)
      _ = some (t, rest) := readLiteral?_append h
  | @basicLines start h =>
    calc readQuoted? ("\"\"\"" ++ start ++ writeBasic 2 0 t ++ "\"\"\"" ++ rest)
        = readBasicLines? false (Text.dropNewline (start ++ (writeBasic 2 0 t ++ '"' :: '"' :: '"' :: rest))) := by
          simp [readQuoted?]
      _ = readBasicLines? false (writeBasic 2 0 t ++ '"' :: '"' :: '"' :: rest) := by
        rw [h.dropNewline (fun hd => (writeBasic_head hd).2) (by decide) (by decide)]
      _ = some (t, rest) := readBasicLines?_writeBasic 0 hmark
  | @literalLines start h hplain hmarks =>
    calc readQuoted? ("'''" ++ start ++ t ++ "'''" ++ rest)
        = readLiteralLines? (Text.dropNewline (start ++ (t ++ '\'' :: '\'' :: '\'' :: rest))) := by
          simp [readQuoted?]
      _ = readLiteralLines? (t ++ '\'' :: '\'' :: '\'' :: rest) := by
        have hhead {d : Char} (hd : t.head? = some d) : (d = '\n' → '\n' ∈ t) ∧ d ≠ '\r' := by
          have hmem := List.mem_of_head? hd
          refine ⟨fun heq => heq ▸ hmem, ?_⟩
          rintro rfl
          exact absurd (hplain _ hmem) (by decide)
        rw [h.dropNewline hhead (by decide) (by decide)]
      _ = some (t, rest) := readLiteralLines?_append hplain hmarks hapostrophe

end SwiftConnections
