import Mathlib.Data.List.Basic
import SwiftConnections.Proofs.Identifiers

namespace SwiftConnections

/-- A character of ASCII that only separates words. -/
def IsSeparator (c : Char) : Prop :=
  c.toNat < 128 ∧ isAlphanumeric c = false

theorem IsSeparator.not_isLowercase {sep : Char} (h : IsSeparator sep) : isLowercase sep = false := by
  obtain ⟨hascii, hsep⟩ := h
  revert hsep
  exact ascii_induction (P := fun c => isAlphanumeric c = false → isLowercase c = false) (by decide) hascii

theorem words_append_separators {s : Text} (hne : s ≠ []) (hs : ∀ c ∈ s, IsSeparator c) (x y : Text) :
    words (x ++ s ++ y) = words x ++ words y := by
  induction s generalizing x with
  | nil => exact absurd rfl hne
  | cons sep s ih =>
    obtain ⟨hsep, hs⟩ := List.forall_mem_cons.mp hs
    have hcons : words (x ++ sep :: (s ++ y)) = words x ++ words (s ++ y) :=
      words_append_separator hsep.2 hsep.not_isLowercase x (s ++ y)
    rw [List.append_assoc, List.cons_append, hcons]
    by_cases hempty : s = []
    · rw [hempty, List.nil_append]
    · have hrest := ih hempty hs []
      rw [List.nil_append] at hrest
      rw [hrest]
      rfl

section Camel

variable {t x y : Text}

theorem upperCamel_append (h : words t = words x ++ words y) : upperCamel t = upperCamel x ++ upperCamel y := by
  rw [upperCamel, h, List.flatMap_append]
  rfl

/-- The first word of the second name is written in small letters only if the first name has no word. -/
theorem lowerCamel_append (h : words t = words x ++ words y) :
    lowerCamel t = if x.any isAlphanumeric then lowerCamel x ++ upperCamel y else lowerCamel y := by
  rw [lowerCamel, h]
  cases hx : words x with
  | nil =>
    rw [words_eq_nil_iff.mp hx]
    rfl
  | cons word more =>
    have hany : x.any isAlphanumeric = true := by
      rw [← Bool.not_eq_false, ← words_eq_nil_iff, hx]
      exact List.cons_ne_nil word more
    have hlower : lowerCamel x = word.lower ++ more.flatMap capitalized := by rw [lowerCamel, hx]
    rw [hany, if_pos rfl, hlower, List.cons_append, List.append_assoc, upperCamel, ← List.flatMap_append]

end Camel

section Ascii

theorem toLower_of_ascii {c : Char} (hc : c.toNat < 128) :
    c.toLower.toNat < 128 ∧ c.toLower.toLower = c.toLower ∧ c.toLower.toUpper.toLower = c.toLower :=
  ascii_induction (P := fun c => c.toLower.toNat < 128 ∧ c.toLower.toLower = c.toLower ∧
    c.toLower.toUpper.toLower = c.toLower) (by decide) hc

variable {t : Text}

theorem lowerFrom_of_ascii (h : ∀ c ∈ t, c.toNat < 128) (before : Text) : lowerFrom before t = t.map Char.toLower := by
  induction t generalizing before with
  | nil => rfl
  | cons c t ih =>
    obtain ⟨hc, ht⟩ := List.forall_mem_cons.mp h
    have hsigma : c ≠ 'Σ' := fun heq => absurd hc (heq ▸ by decide)
    rw [lowerFrom, if_neg hsigma, ih ht, lowerChar, if_pos hc]
    rfl

theorem upper_of_ascii (h : ∀ c ∈ t, c.toNat < 128) : t.upper = t.map Char.toUpper := by
  induction t with
  | nil => rfl
  | cons c t ih =>
    obtain ⟨hc, ht⟩ := List.forall_mem_cons.mp h
    have hrest : t.flatMap upperChar = t.map Char.toUpper := ih ht
    rw [Text.upper, List.flatMap_cons, hrest, upperChar, if_pos hc]
    rfl

theorem map_eq_self {f : Char → Char} (h : ∀ c ∈ t, f c = c) : t.map f = t :=
  (List.map_congr_left h).trans (List.map_id t)

/-- Capitals are all that a word gets and loses. -/
theorem toLower_capitalized (h : ∀ c ∈ t, c.toNat < 128) : (capitalized t).map Char.toLower = t.map Char.toLower := by
  have hlower : t.lower = t.map Char.toLower := lowerFrom_of_ascii h []
  have hascii : ∀ c ∈ t.lower, c.toNat < 128 ∧ c.toLower = c ∧ c.toUpper.toLower = c := by
    intro c hc
    rw [hlower] at hc
    obtain ⟨d, hd, rfl⟩ := List.mem_map.mp hc
    exact toLower_of_ascii (h d hd)
  rw [← hlower, capitalized]
  split
  next =>
    rw [upper_of_ascii fun c hc => (hascii c hc).1, List.map_map]
    exact map_eq_self fun c hc => (hascii c hc).2.2
  next =>
    split
    next heq => rw [heq]; rfl
    next c rest heq =>
      rw [heq] at hascii ⊢
      obtain ⟨⟨hc, -, hupper⟩, hrest⟩ := List.forall_mem_cons.mp hascii
      have hself : rest.map Char.toLower = rest := map_eq_self fun d hd => (hrest d hd).2.1
      rw [upperChar, if_pos hc, List.singleton_append, List.map_cons, hupper, hself]

theorem toLower_flatMap_capitalized {ws : List Text} (h : ∀ word ∈ ws, ∀ c ∈ word, c.toNat < 128) :
    (ws.flatMap capitalized).map Char.toLower = ws.flatten.map Char.toLower := by
  rw [List.map_flatMap, List.map_flatten, ← List.flatMap_def]
  exact List.flatMap_congr fun word hw => toLower_capitalized (h word hw)

theorem toLower_upperCamel (h : ∀ c ∈ t, c.toNat < 128) :
    (upperCamel t).map Char.toLower = (t.filter isAlphanumeric).map Char.toLower := by
  rw [upperCamel, ← flatten_words]
  exact toLower_flatMap_capitalized fun word hw c hc => h c (mem_of_mem_words hw hc).1

theorem toLower_lowerCamel (h : ∀ c ∈ t, c.toNat < 128) :
    (lowerCamel t).map Char.toLower = (t.filter isAlphanumeric).map Char.toLower := by
  have hwords : ∀ word ∈ words t, ∀ c ∈ word, c.toNat < 128 := fun word hw c hc => h c (mem_of_mem_words hw hc).1
  rw [lowerCamel, ← flatten_words]
  split
  next heq => rw [heq]; rfl
  next word more heq =>
    rw [heq] at hwords ⊢
    obtain ⟨hword, hmore⟩ := List.forall_mem_cons.mp hwords
    have hlower : word.lower = word.map Char.toLower := lowerFrom_of_ascii hword []
    have hself : (word.map Char.toLower).map Char.toLower = word.map Char.toLower := by
      rw [List.map_map]
      exact List.map_congr_left fun c hc => (toLower_of_ascii (hword c hc)).2.1
    rw [List.map_append, hlower, hself, toLower_flatMap_capitalized hmore, List.flatten_cons, List.map_append]

end Ascii

/-- Camel case on both sides of a separator is that of each side alone, and camel case of ASCII changes, adds and leaves out
no letter and no digit, but for capitals. -/
theorem camel_append_separators :
    (∀ x s y : Text, s ≠ [] → (∀ c ∈ s, IsSeparator c) →
      upperCamel (x ++ s ++ y) = upperCamel x ++ upperCamel y ∧
      lowerCamel (x ++ s ++ y) = if x.any isAlphanumeric then lowerCamel x ++ upperCamel y else lowerCamel y) ∧
    ∀ name : Text, (∀ c ∈ name, c.toNat < 128) →
      (upperCamel name).map Char.toLower = (name.filter isAlphanumeric).map Char.toLower ∧
      (lowerCamel name).map Char.toLower = (name.filter isAlphanumeric).map Char.toLower := by
  refine ⟨fun x s y hne hs => ?_, fun name hascii => ⟨toLower_upperCamel hascii, toLower_lowerCamel hascii⟩⟩
  have hwords := words_append_separators hne hs x y
  exact ⟨upperCamel_append hwords, lowerCamel_append hwords⟩

theorem camel_append_separators_id :
    (∀ c ∈ "__-".toList, IsSeparator c) ∧
    upperCamel "chan__-id" = upperCamel "chan" ++ upperCamel "id" ∧
    lowerCamel "chan__-id" = lowerCamel "chan" ++ upperCamel "id" ∧ lowerCamel "__-id" = lowerCamel "id" ∧
    (lowerCamel "chan__-id").map Char.toLower = "chanid".toList := by
  have hsep : ∀ c ∈ "__-".toList, IsSeparator c := by
    have hall : ∀ c ∈ "__-".toList, (c.toNat < 128 && !isAlphanumeric c) = true := List.all_eq_true.mp (by decide)
    intro c hc
    simpa [IsSeparator] using hall c hc
  have hascii : ∀ c ∈ "chan__-id".toList, decide (c.toNat < 128) = true := List.all_eq_true.mp (by decide)
  obtain ⟨happend, hletters⟩ := camel_append_separators
  have hchan := happend "chan" "__-" "id" (by decide) hsep
  have hid := happend [] "__-" "id" (by decide) hsep
  exact ⟨hsep, hchan.1, hchan.2, hid.2, (hletters "chan__-id" fun c hc => of_decide_eq_true (hascii c hc)).2⟩

end SwiftConnections
