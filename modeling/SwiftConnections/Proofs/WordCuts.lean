import SwiftConnections.Proofs.Words

namespace SwiftConnections

/-- The first of the words make up the text, so that a word ends directly behind it. -/
def EndsAfter (ws : List Text) (front : Text) : Prop :=
  ∃ first rest, ws = first ++ rest ∧ first.flatten = front

/-- A word begins at `c` directly behind `p`: at a capital after a small letter, where digits of ASCII begin or end, and at a
capital between a capital and a small letter. -/
def BeginsWord (p c : Char) (following : Option Char) : Prop :=
  (isLowercase p = true ∧ isUppercase c = true) ∨ p.isDigit ≠ c.isDigit ∨
    (isUppercase p = true ∧ isUppercase c = true ∧ ∃ n, following = some n ∧ isLowercase n = true)

/-- The words of a text: its letters and numbers in order, cut between two of them that follow each other exactly where
something else stands between the two or a word begins at the second. -/
structure AreWords (t : Text) (ws : List Text) : Prop where
  ne_nil : ∀ word ∈ ws, word ≠ []
  flatten_eq : ws.flatten = t.filter isAlphanumeric
  cut_iff : ∀ {before gap after p c}, t = before ++ p :: (gap ++ c :: after) → isAlphanumeric p = true →
    (∀ d ∈ gap, isAlphanumeric d = false) → isAlphanumeric c = true →
      (EndsAfter ws ((before ++ [p]).filter isAlphanumeric) ↔ gap ≠ [] ∨ BeginsWord p c after.head?)

theorem wordBegins_iff {p c : Char} {following : Option Char} :
    wordBegins p c following = true ↔ BeginsWord p c following := by
  cases following <;> simp [wordBegins, BeginsWord, or_assoc, and_assoc]

section EndsAfter

variable {ws ws' : List Text} {word front : Text}

theorem EndsAfter.nil (ws : List Text) : EndsAfter ws [] :=
  ⟨[], ws, rfl, rfl⟩

theorem EndsAfter.all (ws : List Text) : EndsAfter ws ws.flatten :=
  ⟨ws, [], (List.append_nil ws).symm, rfl⟩

theorem endsAfter_nil_iff : EndsAfter [] front ↔ front = [] := by
  refine ⟨?_, fun h => h ▸ .nil []⟩
  rintro ⟨first, rest, hws, rfl⟩
  rw [(List.append_eq_nil_iff.mp hws.symm).1]
  rfl

theorem endsAfter_cons_iff :
    EndsAfter (word :: ws) front ↔ front = [] ∨ ∃ back, front = word ++ back ∧ EndsAfter ws back := by
  constructor
  · rintro ⟨first, rest, hws, rfl⟩
    cases first with
    | nil => exact .inl rfl
    | cons w first =>
      obtain ⟨rfl, hrest⟩ := List.cons.inj hws
      exact .inr ⟨first.flatten, rfl, first, rest, hrest, rfl⟩
  · rintro (rfl | ⟨back, rfl, first, rest, rfl, rfl⟩)
    · exact .nil _
    · exact ⟨word :: first, rest, rfl, rfl⟩

theorem EndsAfter.head (word : Text) (ws : List Text) : EndsAfter (word :: ws) word :=
  ⟨[word], ws, rfl, List.flatten_singleton⟩

theorem endsAfter_cons_append_iff (hword : word ≠ []) : EndsAfter (word :: ws) (word ++ front) ↔ EndsAfter ws front := by
  rw [endsAfter_cons_iff]
  constructor
  · rintro (h | ⟨back, hback, h⟩)
    · exact absurd (List.append_eq_nil_iff.mp h).1 hword
    · rwa [List.append_cancel_left hback]
  · exact fun h => .inr ⟨front, rfl, h⟩

theorem isPrefix_of_endsAfter (hfront : front ≠ []) (h : EndsAfter (word :: ws) front) : word <+: front := by
  obtain ⟨back, rfl, -⟩ := (endsAfter_cons_iff.mp h).resolve_left hfront
  exact List.prefix_append word back

/-- Words are told by the places where they end. -/
theorem eq_of_endsAfter_iff (hne : ∀ word ∈ ws, word ≠ []) (hne' : ∀ word ∈ ws', word ≠ [])
    (h : ∀ front, EndsAfter ws front ↔ EndsAfter ws' front) : ws = ws' := by
  induction ws generalizing ws' with
  | nil =>
    cases ws' with
    | nil => rfl
    | cons word' ws' =>
      exact absurd (endsAfter_nil_iff.mp ((h word').mpr (.head word' ws'))) (hne' word' List.mem_cons_self)
  | cons word ws ih =>
    obtain ⟨hword, hws⟩ := List.forall_mem_cons.mp hne
    cases ws' with
    | nil => exact absurd (endsAfter_nil_iff.mp ((h word).mp (.head word ws))) hword
    | cons word' ws' =>
      obtain ⟨hword', hws'⟩ := List.forall_mem_cons.mp hne'
      have hshort : word' <+: word := isPrefix_of_endsAfter hword ((h word).mp (.head word ws))
      have hlong : word <+: word' := isPrefix_of_endsAfter hword' ((h word').mpr (.head word' ws'))
      have heq : word = word' := hlong.eq_of_length_le hshort.length_le
      subst heq
      have hrest : ws = ws' := ih hws hws' fun front => by
        rw [← endsAfter_cons_append_iff hword, h, endsAfter_cons_append_iff hword]
      rw [hrest]

end EndsAfter

theorem ne_nil_of_mem_cutWords {t word : Text} (h : word ∈ cutWords t) : word ≠ [] := by
  induction t using cutWords.induct generalizing word with
  | case1 => exact absurd h List.not_mem_nil
  | case2 c hc =>
    rw [cutWords_singleton hc, List.mem_singleton] at h
    exact h ▸ List.cons_ne_nil c []
  | case3 c hc d more hjoin ih =>
    have hd : isAlphanumeric d = true := (Bool.and_eq_true_iff.mp hjoin).1
    obtain ⟨first, others, hwords⟩ := exists_cutWords_cons hd more
    rw [cutWords_cons_of_join hc hjoin, hwords] at h
    rcases List.mem_cons.mp h with rfl | h
    · exact List.cons_ne_nil c _
    · exact ih (hwords ▸ List.mem_cons_of_mem _ h)
  | case4 c hc d more hcut ih =>
    rw [cutWords_cons_of_cut hc (Bool.eq_false_iff.mpr hcut)] at h
    rcases List.mem_cons.mp h with rfl | h
    · exact List.cons_ne_nil c []
    · exact ih h
  | case5 c rest hc ih =>
    rw [cutWords_cons_of_separator (Bool.eq_false_iff.mpr hc)] at h
    exact ih h

/-- A letter or number before a text moves no end of a word in it. -/
theorem endsAfter_cutWords_cons_iff {c : Char} {front : Text} (hc : isAlphanumeric c = true) (rest : Text) (hfront : front ≠ []) :
    EndsAfter (cutWords (c :: rest)) (c :: front) ↔ EndsAfter (cutWords rest) front := by
  cases rest with
  | nil => rw [cutWords_singleton hc]; exact endsAfter_cons_append_iff (List.cons_ne_nil c [])
  | cons d more =>
    cases hjoin : isAlphanumeric d && !wordBegins c d more.head? with
    | false => rw [cutWords_cons_of_cut hc hjoin]; exact endsAfter_cons_append_iff (List.cons_ne_nil c [])
    | true =>
      have hd : isAlphanumeric d = true := (Bool.and_eq_true_iff.mp hjoin).1
      obtain ⟨first, others, hwords⟩ := exists_cutWords_cons hd more
      rw [cutWords_cons_of_join hc hjoin, hwords, List.modifyHead_cons, endsAfter_cons_iff, endsAfter_cons_iff]
      simp [hfront]

/-- The words of a text end behind one of its letters and numbers that another one follows exactly where the two are apart or
a word begins. -/
theorem endsAfter_cutWords_iff {before gap after : Text} {p c : Char} (hp : isAlphanumeric p = true)
    (hgap : ∀ d ∈ gap, isAlphanumeric d = false) (hc : isAlphanumeric c = true) :
    EndsAfter (cutWords (before ++ p :: (gap ++ c :: after))) ((before ++ [p]).filter isAlphanumeric) ↔
      gap ≠ [] ∨ BeginsWord p c after.head? := by
  induction before with
  | nil =>
    rw [List.nil_append, List.nil_append, List.filter_cons_of_pos hp, List.filter_nil]
    cases gap with
    | nil =>
      rw [List.nil_append, ← wordBegins_iff]
      cases hbegins : wordBegins p c after.head? with
      | true =>
        rw [cutWords_cons_of_cut hp (by rw [hbegins]; simp)]
        simp [endsAfter_cons_iff, EndsAfter.nil]
      | false =>
        obtain ⟨first, others, hwords⟩ := exists_cutWords_cons hc after
        rw [cutWords_cons_of_join hp (by rw [hc, hbegins]; rfl), hwords, List.modifyHead_cons]
        simp [endsAfter_cons_iff]
    | cons d gap =>
      have hd : isAlphanumeric d = false := hgap d List.mem_cons_self
      rw [List.cons_append, cutWords_cons_of_cut hp (by rw [hd, Bool.false_and])]
      simp [endsAfter_cons_iff, EndsAfter.nil]
  | cons d before ih =>
    rw [List.cons_append, List.cons_append]
    cases hd : isAlphanumeric d with
    | false => rw [cutWords_cons_of_separator hd, List.filter_cons_of_neg (by rw [hd]; simp), ih]
    | true =>
      have hfront : (before ++ [p]).filter isAlphanumeric ≠ [] := by simp [hp]
      rw [List.filter_cons_of_pos hd, endsAfter_cutWords_cons_iff hd _ hfront, ih]

theorem areWords_words (t : Text) : AreWords t (words t) where
  ne_nil word hword := ne_nil_of_mem_cutWords (words_eq_cutWords t ▸ hword)
  flatten_eq := flatten_words t
  cut_iff := by
    rintro before gap after p c rfl hp hgap hc
    rw [words_eq_cutWords]
    exact endsAfter_cutWords_iff hp hgap hc

/-- Between any first and last letters and numbers of a text, two of them follow each other in it. -/
theorem exists_cut {t front back : Text} (h : t.filter isAlphanumeric = front ++ back) (hfront : front ≠ []) (hback : back ≠ []) :
    ∃ before gap after p c, t = before ++ p :: (gap ++ c :: after) ∧ isAlphanumeric p = true ∧
      (∀ d ∈ gap, isAlphanumeric d = false) ∧ isAlphanumeric c = true ∧
      (before ++ [p]).filter isAlphanumeric = front := by
  obtain ⟨left, right, rfl, hleft, hright⟩ := List.filter_eq_append_iff.mp h
  obtain ⟨front, p, rfl⟩ := (List.eq_nil_or_concat front).resolve_left hfront
  obtain ⟨c, back, rfl⟩ := List.exists_cons_of_ne_nil hback
  rw [List.concat_eq_append] at hleft ⊢
  obtain ⟨start, leftEnd, rfl, hstart, hleftEnd⟩ := List.filter_eq_append_iff.mp hleft
  obtain ⟨skipped, gap, rfl, hskipped, hp, hgap⟩ := List.filter_eq_cons_iff.mp hleftEnd
  obtain ⟨gap', after, rfl, hgap', hc, -⟩ := List.filter_eq_cons_iff.mp hright
  refine ⟨start ++ skipped, gap ++ gap', after, p, c, by simp, hp, fun d hd => ?_, hc, ?_⟩
  · rcases List.mem_append.mp hd with hd | hd
    · exact Bool.eq_false_iff.mpr (List.filter_eq_nil_iff.mp hgap d hd)
    · exact Bool.eq_false_iff.mpr (hgap' d hd)
  · have hnone : skipped.filter isAlphanumeric = [] := List.filter_eq_nil_iff.mpr hskipped
    rw [List.filter_append, List.filter_append, hstart, hnone, List.append_nil, List.filter_cons_of_pos hp, List.filter_nil]

theorem AreWords.endsAfter {t front : Text} {ws ws' : List Text} (h : AreWords t ws) (h' : AreWords t ws')
    (hends : EndsAfter ws front) : EndsAfter ws' front := by
  obtain ⟨first, rest, rfl, rfl⟩ := hends
  have hflat : t.filter isAlphanumeric = first.flatten ++ rest.flatten := by rw [← h.flatten_eq, List.flatten_append]
  by_cases hfirst : first.flatten = []
  · exact hfirst ▸ .nil ws'
  by_cases hrest : rest.flatten = []
  · rw [hrest, List.append_nil, ← h'.flatten_eq] at hflat
    exact hflat ▸ .all ws'
  · obtain ⟨before, gap, after, p, c, ht, hp, hgap, hc, hfront⟩ := exists_cut hflat hfirst hrest
    have hends : EndsAfter (first ++ rest) ((before ++ [p]).filter isAlphanumeric) := ⟨first, rest, rfl, hfront.symm⟩
    rw [← hfront, h'.cut_iff ht hp hgap hc]
    exact (h.cut_iff ht hp hgap hc).mp hends

/-- Reading a text once gives words that are cut exactly where words begin, and no other list of words has its cuts there. -/
theorem areWords_iff (t : Text) (ws : List Text) : AreWords t ws ↔ ws = words t := by
  refine ⟨fun h => ?_, fun h => h ▸ areWords_words t⟩
  have hwords := areWords_words t
  exact eq_of_endsAfter_iff h.ne_nil hwords.ne_nil fun front => ⟨h.endsAfter hwords, hwords.endsAfter h⟩

example : words "__field2nameURLValue" = [("field" : Text), ("2" : Text), ("name" : Text), ("URL" : Text), ("Value" : Text)] := by
  decide +kernel

end SwiftConnections
