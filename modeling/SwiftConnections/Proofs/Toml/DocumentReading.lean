import SwiftConnections.Proofs.Toml.QuotedReading
import SwiftConnections.Toml.Reader

namespace SwiftConnections

namespace Toml

/-- The text is a key without quotes. -/
def IsBareKey (key : Text) : Prop :=
  key ≠ [] ∧ key.all isBare = true

instance (key : Text) : Decidable (IsBareKey key) :=
  inferInstanceAs (Decidable (key ≠ [] ∧ key.all isBare = true))

theorem ne_of_isBare {c d : Char} (h : isBare c = true) (hd : isBare d = false) : c ≠ d := by
  rintro rfl
  exact Bool.false_ne_true (hd.symm.trans h)

theorem not_isSpace_of_isBare {c : Char} (h : isBare c = true) : isSpace c = false := by
  simp only [isSpace, Bool.or_eq_false_iff, decide_eq_false_iff_not]
  exact ⟨ne_of_isBare h rfl, ne_of_isBare h rfl⟩

theorem skipSpace_of_not_isSpace {c : Char} (h : isSpace c = false) (rest : Text) :
    Text.skipSpace (c :: rest) = c :: rest := by
  simp [Text.skipSpace, h]

namespace IsBareKey

variable {key rest : Text} {c : Char}

theorem forall_mem (h : IsBareKey key) : ∀ d ∈ key, isBare d = true :=
  List.all_eq_true.mp h.2

theorem eq_cons (h : IsBareKey key) : ∃ d more, key = d :: more ∧ isBare d = true := by
  obtain ⟨d, more, rfl⟩ := List.exists_cons_of_ne_nil h.1
  exact ⟨d, more, rfl, h.forall_mem d List.mem_cons_self⟩

theorem skipSpace (h : IsBareKey key) : Text.skipSpace (key ++ rest) = key ++ rest := by
  obtain ⟨d, more, rfl, hd⟩ := h.eq_cons
  exact skipSpace_of_not_isSpace (not_isSpace_of_isBare hd) (more ++ rest)

theorem readKey? (h : IsBareKey key) (hc : isBare c = false) :
    Toml.readKey? (key ++ c :: rest) = some (key, c :: rest) := by
  have htake : (key ++ c :: rest).takeWhile isBare = key := by
    rw [List.takeWhile_append_of_pos h.forall_mem, List.takeWhile_cons_of_neg (Bool.eq_false_iff.mp hc), List.append_nil]
  have hdrop : (key ++ c :: rest).dropWhile isBare = c :: rest := by
    rw [List.dropWhile_append_of_pos h.forall_mem, List.dropWhile_cons_of_neg (Bool.eq_false_iff.mp hc)]
  obtain ⟨d, more, rfl, hd⟩ := h.eq_cons
  have hhead : (d :: more ++ c :: rest).head?.any isBare = true := by simpa using hd
  rw [Toml.readKey?, if_pos hhead, htake, hdrop]
  · exact fun _ heq => ne_of_isBare hd (by decide) (List.cons.inj heq).1
  · exact fun _ heq => ne_of_isBare hd (by decide) (List.cons.inj heq).1

/-- A key without a dot behind it is a path of one part. -/
theorem path? {d : Char} {more : Text} (h : IsBareKey key) (hc : isBare c = false)
    (hmore : Text.skipSpace (c :: rest) = d :: more) (hdot : d ≠ '.') :
    Toml.path? (key ++ c :: rest) = some ([key], d :: more) := by
  rw [Toml.path?, depthLimit, readPath?, h.skipSpace, h.readKey? hc]
  simp only [Option.bind_eq_bind, Option.bind_some, hmore]
  split
  next heq => exact absurd (List.cons.inj heq).1 hdot
  next => rfl

/-- A key begins a line with content. -/
theorem skipLines? (h : IsBareKey key) : Text.skipLines? false (key ++ rest) = some (key ++ rest) := by
  obtain ⟨d, more, rfl, hd⟩ := h.eq_cons
  have hcomment : d ≠ '#' := ne_of_isBare hd rfl
  rw [List.cons_append, Text.skipLines?, if_neg Bool.false_ne_true, if_neg (by simp [not_isSpace_of_isBare hd]),
    if_neg hcomment]
  · exact ne_of_isBare hd rfl
  · exact fun _ hreturn => absurd hreturn (ne_of_isBare hd rfl)

end IsBareKey

/-- The text is read as a value, up to the end of its line. -/
structure IsValue (t : Text) (value : Toml) : Prop where
  skipSpace (rest : Text) : Text.skipSpace (t ++ rest) = t ++ rest
  readValue? (rest : Text) : readValue? depthLimit (t ++ '\n' :: rest) = some (value, '\n' :: rest)

theorem writeQuoted_eq_cons (t : Text) : ∃ d u, writeQuoted t = d :: u ∧ (d = '"' ∨ d = '\'') := by
  have hquoted := quoted_writeQuoted t
  generalize writeQuoted t = u at hquoted ⊢
  cases hquoted with
  | basic => exact ⟨'"', _, rfl, .inl rfl⟩
  | literal _ => exact ⟨'\'', _, rfl, .inr rfl⟩
  | basicLines _ => exact ⟨'"', _, rfl, .inl rfl⟩
  | literalLines _ _ _ => exact ⟨'\'', _, rfl, .inr rfl⟩

theorem isValue_writeQuoted (t : Text) : IsValue (writeQuoted t) (text t) := by
  have hread (rest : Text) : readQuoted? (writeQuoted t ++ '\n' :: rest) = some (t, '\n' :: rest) :=
    readQuoted?_writeQuoted t (by simp) (by simp)
  obtain ⟨d, u, hwrite, rfl | rfl⟩ := writeQuoted_eq_cons t
  all_goals
    rw [hwrite] at hread ⊢
    refine ⟨fun rest => skipSpace_of_not_isSpace rfl (u ++ rest), fun rest => ?_⟩
    rw [List.cons_append, Toml.readValue?, ← List.cons_append, hread]
    rfl

/-- The text is read as a line of a document. -/
structure IsLine (t : Text) (line : Line) : Prop where
  skipLines? (rest : Text) : Text.skipLines? false (t ++ rest) = some (t ++ rest)
  readLine? (rest : Text) : readLine? (t ++ '\n' :: rest) = some (line, '\n' :: rest)

theorem isLine_header {name : Text} (h : IsBareKey name) : IsLine ("[" ++ name ++ "]") (.header false [name]) where
  skipLines? rest := by simp [Text.skipLines?, isSpace]
  readLine? rest := by
    have hpath : path? (name ++ ']' :: '\n' :: rest) = some ([name], ']' :: '\n' :: rest) :=
      h.path? rfl rfl (by decide)
    calc readLine? ("[" ++ name ++ "]" ++ '\n' :: rest)
        = readLine? ('[' :: (name ++ ']' :: '\n' :: rest)) := by simp
      _ = (path? (name ++ ']' :: '\n' :: rest)).bind fun found =>
            (Text.expect? ']' found.2).bind fun rest => some (.header false found.1, rest) := by
        obtain ⟨d, more, rfl, hd⟩ := h.eq_cons
        rw [Toml.readLine?]
        · rfl
        · exact fun _ heq => ne_of_isBare hd (by decide) (List.cons.inj heq).1
      _ = some (.header false [name], '\n' :: rest) := by
        rw [hpath]
        rfl

theorem isLine_entry {key t : Text} {value : Toml} (h : IsBareKey key) (ht : IsValue t value) :
    IsLine (key ++ " = " ++ t) (.entry [key] value) where
  skipLines? rest := by rw [List.append_assoc, List.append_assoc, h.skipLines?]
  readLine? rest := by
    have hpath : path? (key ++ ' ' :: '=' :: ' ' :: (t ++ '\n' :: rest)) =
        some ([key], '=' :: ' ' :: (t ++ '\n' :: rest)) := h.path? rfl rfl (by decide)
    have hpair : readPair? (some ∘ Text.skipSpace) (readValue? depthLimit)
        (key ++ ' ' :: '=' :: ' ' :: (t ++ '\n' :: rest)) = some (([key], value), '\n' :: rest) := by
      have hvalue := ht.readValue? rest
      rw [← ht.skipSpace] at hvalue
      rw [readPair?, hpath]
      change (readValue? depthLimit (Text.skipSpace (t ++ '\n' :: rest))).bind _ = _
      rw [hvalue]
      rfl
    calc readLine? (key ++ " = " ++ t ++ '\n' :: rest)
        = readLine? (key ++ ' ' :: '=' :: ' ' :: (t ++ '\n' :: rest)) := by simp
      _ = (readPair? (some ∘ Text.skipSpace) (readValue? depthLimit)
            (key ++ ' ' :: '=' :: ' ' :: (t ++ '\n' :: rest))).map fun found =>
              (.entry found.1.1 found.1.2, found.2) := by
        obtain ⟨d, more, rfl, hd⟩ := h.eq_cons
        rw [Toml.readLine?]
        · exact fun _ heq => ne_of_isBare hd (by decide) (List.cons.inj heq).1
        · exact fun _ heq => ne_of_isBare hd (by decide) (List.cons.inj heq).1
      _ = some (.entry [key] value, '\n' :: rest) := by rw [hpair, Option.map_some]

/-- The texts are lines of a document, with blank ones between them. -/
inductive AreLines : List Text → List Line → Prop
  | nil : AreLines [] []
  | blank {texts : List Text} {lines : List Line} (h : AreLines texts lines) : AreLines ([] :: texts) lines
  | cons {t : Text} {line : Line} {texts : List Text} {lines : List Line} (h : IsLine t line)
    (hmore : AreLines texts lines) : AreLines (t :: texts) (line :: lines)

/-- All lines are read from what is left behind the blank ones at the start. They are no more than its characters,
which is the limit that the reader goes by. -/
theorem AreLines.readLines? {texts : List Text} {lines : List Line} (h : AreLines texts lines) :
    ∃ rest, Text.skipLines? false (Text.unlines texts) = some rest ∧ lines.length ≤ rest.length ∧
      rest.length ≤ (Text.unlines texts).length ∧
      ∀ limit, lines.length ≤ limit → Toml.readLines? limit rest = some lines := by
  induction h with
  | nil => exact ⟨[], rfl, Nat.le_refl _, Nat.le_refl _, fun limit _ => by cases limit <;> rfl⟩
  | blank h ih =>
    obtain ⟨rest, hskip, hlines, hrest, hread⟩ := ih
    exact ⟨rest, hskip, hlines, Nat.le_succ_of_le hrest, hread⟩
  | @cons t line texts lines h hmore ih =>
    obtain ⟨rest, hskip, hlines, hrest, hread⟩ := ih
    have htext : Text.unlines (t :: texts) = t ++ '\n' :: Text.unlines texts := by simp [Text.unlines]
    refine ⟨t ++ '\n' :: Text.unlines texts, ?_, ?_, ?_, ?_⟩
    · rw [htext, h.skipLines?]
    · simp only [List.length_append, List.length_cons]
      omega
    · exact Nat.le_of_eq (congrArg List.length htext.symm)
    · intro limit hlimit
      obtain ⟨limit, rfl⟩ := Nat.exists_eq_add_one_of_ne_zero (Nat.ne_zero_of_lt hlimit)
      have hnext : Text.nextLine? ('\n' :: Text.unlines texts) = some rest := hskip
      have hmore := hread limit (Nat.le_of_succ_le_succ hlimit)
      rw [Toml.readLines?, h.readLine?]
      · change (Text.nextLine? ('\n' :: Text.unlines texts)).bind _ = _
        rw [hnext]
        change (Toml.readLines? limit rest).map _ = _
        rw [hmore, Option.map_some]
      · exact List.append_ne_nil_of_right_ne_nil t (List.cons_ne_nil _ _)

/-- A document of lines is read as the table that they make up. -/
theorem AreLines.read? {texts : List Text} {lines : List Line} (h : AreLines texts lines)
    (hmark : (Text.unlines texts).head? ≠ some '\ufeff') : Toml.read? (Text.unlines texts) = ofLines? lines := by
  obtain ⟨rest, hskip, hlines, -, hread⟩ := h.readLines?
  have hdrop : dropMark (Text.unlines texts) = Text.unlines texts := by
    unfold dropMark
    split
    next heq => exact absurd (by rw [heq]; rfl) hmark
    next => rfl
  rw [Toml.read?, hdrop, hskip]
  change (Toml.readLines? rest.length rest).bind _ = _
  rw [hread rest.length hlines, Option.bind_some]

end Toml

end SwiftConnections
