import SwiftConnections.Proofs.Words

namespace SwiftConnections

/-- A letter or a digit of ASCII, or any character beyond ASCII. -/
def isWordChar (c : Char) : Bool :=
  c.isAlphanum || 128 ≤ c.toNat

theorem ascii_induction {P : Char → Prop} (h : ∀ n < 128, P (Char.ofNat n)) {c : Char} (hc : c.toNat < 128) : P c := by
  have hchar := h c.toNat hc
  rwa [Char.ofNat_toNat] at hchar

theorem lt_of_isUpper {c : Char} (h : c.isUpper = true) : c.toNat < 128 := by
  have hlast := (of_decide_eq_true h).2
  exact Nat.lt_of_le_of_lt (UInt32.le_iff_toNat_le.mp hlast) (by decide)

theorem lt_of_isLower {c : Char} (h : c.isLower = true) : c.toNat < 128 := by
  have hlast := of_decide_eq_true (Bool.and_eq_true_iff.mp h).2
  exact Nat.lt_of_le_of_lt (UInt32.le_iff_toNat_le.mp hlast) (by decide)

theorem lt_of_isAlpha {c : Char} (h : c.isAlpha = true) : c.toNat < 128 := by
  rcases Bool.or_eq_true_iff.mp h with hupper | hlower
  · exact lt_of_isUpper hupper
  · exact lt_of_isLower hlower

theorem lt_of_isAlphanum {c : Char} (h : c.isAlphanum = true) : c.toNat < 128 := by
  rcases Bool.or_eq_true_iff.mp h with hletter | hdigit
  · exact lt_of_isAlpha hletter
  · have hlast := of_decide_eq_true (Bool.and_eq_true_iff.mp hdigit).2
    exact Nat.lt_of_le_of_lt (UInt32.le_iff_toNat_le.mp hlast) (by decide)

theorem isWordChar_of_isAlphanumeric {c : Char} (h : isAlphanumeric c = true) : isWordChar c = true := by
  by_cases hc : c.toNat < 128
  · rw [isAlphanumeric, isAlphabetic, isNumeric, if_pos hc, if_pos hc] at h
    rw [isWordChar, Char.isAlphanum, h, Bool.true_or]
  · have hcode : 128 ≤ c.toNat := by omega
    rw [isWordChar, decide_eq_true hcode, Bool.or_true]

/-- All characters that the shift gives are word characters. -/
def Shift.givesWordChars (s : Shift) : Bool :=
  let first := s.run.first + s.distance
  let last := s.run.last + s.distance
  (128 ≤ first && (last < 0xd800 || 0xe000 ≤ first && last < 0x110000)) ||
    (first = last && isWordChar (Char.ofNat first.toNat))

theorem isWordChar_of_givesWordChars {s : Shift} (h : s.givesWordChars = true) {code : Nat}
    (hcode : s.run.holds code = true) : isWordChar (Char.ofNat ((code : Int) + s.distance).toNat) = true := by
  simp only [Run.holds, Bool.and_eq_true, decide_eq_true_eq] at hcode
  obtain ⟨⟨hfirst, hlast⟩, -⟩ := hcode
  simp only [Shift.givesWordChars, Bool.or_eq_true, Bool.and_eq_true, decide_eq_true_eq] at h
  rcases h with ⟨hlow, hvalid⟩ | ⟨hone, hchar⟩
  · have hn : 128 ≤ ((code : Int) + s.distance).toNat := by omega
    have hv : ((code : Int) + s.distance).toNat.isValidChar := by
      unfold Nat.isValidChar
      omega
    have hcode : (Char.ofNat ((code : Int) + s.distance).toNat).toNat = ((code : Int) + s.distance).toNat := by
      rw [Char.ofNat, dif_pos hv]
      rfl
    rw [isWordChar, hcode, decide_eq_true hn, Bool.or_true]
  · have hsame : (code : Int) = s.run.first := by omega
    rwa [hsame]

theorem isWordChar_shifted {shifts : List Shift} (h : ∀ s ∈ shifts, s.givesWordChars = true) {c : Char}
    (hc : isWordChar c = true) : isWordChar (shifted shifts c) = true := by
  rw [shifted]
  cases hs : shifts.find? (·.run.holds c.toNat) with
  | none => exact hc
  | some s =>
    have hholds := List.find?_some hs
    exact isWordChar_of_givesWordChars (h s (List.mem_of_find?_eq_some hs)) hholds

section CaseMapping

variable {c d : Char}

theorem isWordChar_toLower (h : isWordChar c = true) (hc : c.toNat < 128) : isWordChar c.toLower = true := by
  revert h
  exact ascii_induction (P := fun c => isWordChar c = true → isWordChar c.toLower = true) (by decide) hc

theorem isWordChar_toUpper (h : isWordChar c = true) (hc : c.toNat < 128) : isWordChar c.toUpper = true := by
  revert h
  exact ascii_induction (P := fun c => isWordChar c = true → isWordChar c.toUpper = true) (by decide) hc

theorem isWordChar_of_mem_lowerChar (h : isWordChar c = true) (hd : d ∈ lowerChar c) : isWordChar d = true := by
  have hshifts : ∀ s ∈ lowerShifts, s.givesWordChars = true := by decide +kernel
  rw [lowerChar] at hd
  split at hd
  next hc =>
    rw [List.mem_singleton.mp hd]
    exact isWordChar_toLower h hc
  next =>
    split at hd
    next =>
      have hdotted : ∀ d ∈ ['i', '\u0307'], isWordChar d = true := List.all_eq_true.mp (by decide)
      exact hdotted d hd
    next =>
      rw [List.mem_singleton.mp hd]
      exact isWordChar_shifted hshifts h

theorem isWordChar_of_mem_upperChar (h : isWordChar c = true) (hd : d ∈ upperChar c) : isWordChar d = true := by
  have hshifts : ∀ s ∈ upperShifts, s.givesWordChars = true := by decide +kernel
  have hexpansions : ∀ e ∈ upperExpansions, ∀ code ∈ e.2, isWordChar (Char.ofNat code) = true := by
    decide +kernel
  rw [upperChar] at hd
  split at hd
  next hc =>
    rw [List.mem_singleton.mp hd]
    exact isWordChar_toUpper h hc
  next =>
    split at hd
    next codes hlookup =>
      obtain ⟨code, hcode, rfl⟩ := List.mem_map.mp hd
      obtain ⟨before, after, hsplit, -⟩ := List.lookup_eq_some_iff.mp hlookup
      exact hexpansions (c.toNat, codes) (by simp [hsplit]) code hcode
    next =>
      rw [List.mem_singleton.mp hd]
      exact isWordChar_shifted hshifts h

theorem isWordChar_of_mem_lowerFrom {before t : Text} (h : ∀ c ∈ t, isWordChar c = true)
    (hd : d ∈ lowerFrom before t) : isWordChar d = true := by
  induction t generalizing before with
  | nil => exact absurd hd List.not_mem_nil
  | cons c t ih =>
    rw [lowerFrom] at hd
    rcases List.mem_append.mp hd with hd | hd
    · split at hd
      next =>
        have hsigma : ∀ d ∈ ['ς', 'σ'], isWordChar d = true := List.all_eq_true.mp (by decide)
        refine hsigma d ?_
        split at hd <;> simp [List.mem_singleton.mp hd]
      next => exact isWordChar_of_mem_lowerChar (h c List.mem_cons_self) hd
    · exact ih (fun e he => h e (List.mem_cons_of_mem c he)) hd

end CaseMapping

theorem isWordChar_of_mem_words {t word : Text} (hw : word ∈ words t) : ∀ c ∈ word, isWordChar c = true :=
  fun c hc => isWordChar_of_isAlphanumeric (isAlphanumeric_of_mem_words hw c hc)

section Camel

variable {word t : Text} {d : Char}

theorem isWordChar_of_mem_capitalized (h : ∀ c ∈ word, isWordChar c = true) (hd : d ∈ capitalized word) :
    isWordChar d = true := by
  have hlower : ∀ c ∈ word.lower, isWordChar c = true := fun c hc => isWordChar_of_mem_lowerFrom h hc
  rw [capitalized] at hd
  split at hd
  next =>
    obtain ⟨c, hc, hd⟩ := List.mem_flatMap.mp hd
    exact isWordChar_of_mem_upperChar (hlower c hc) hd
  next =>
    split at hd
    next => exact absurd hd List.not_mem_nil
    next c rest hword =>
      rw [hword] at hlower
      rcases List.mem_append.mp hd with hd | hd
      · exact isWordChar_of_mem_upperChar (hlower c List.mem_cons_self) hd
      · exact hlower d (List.mem_cons_of_mem c hd)

theorem isWordChar_of_mem_upperCamel (hd : d ∈ upperCamel t) : isWordChar d = true := by
  obtain ⟨word, hw, hd⟩ := List.mem_flatMap.mp hd
  exact isWordChar_of_mem_capitalized (isWordChar_of_mem_words hw) hd

theorem not_mem_upperCamel (hd : isWordChar d = false) : d ∉ upperCamel t :=
  fun hm => Bool.eq_false_iff.mp hd (isWordChar_of_mem_upperCamel hm)

theorem isWordChar_of_mem_lowerCamel (hd : d ∈ lowerCamel t) : isWordChar d = true := by
  rw [lowerCamel] at hd
  split at hd
  next => exact absurd hd List.not_mem_nil
  next first more hwords =>
    have hchars : ∀ word ∈ first :: more, ∀ c ∈ word, isWordChar c = true :=
      fun word hw => isWordChar_of_mem_words (hwords ▸ hw)
    obtain ⟨hfirst, hmore⟩ := List.forall_mem_cons.mp hchars
    rcases List.mem_append.mp hd with hd | hd
    · exact isWordChar_of_mem_lowerFrom hfirst hd
    · obtain ⟨word, hw, hd⟩ := List.mem_flatMap.mp hd
      exact isWordChar_of_mem_capitalized (hmore word hw) hd

theorem not_mem_lowerCamel (hd : isWordChar d = false) : d ∉ lowerCamel t :=
  fun hm => Bool.eq_false_iff.mp hd (isWordChar_of_mem_lowerCamel hm)

end Camel

/-- A letter or an underscore, and then letters, digits and underscores. -/
def isIdentifier : Text → Bool
  | [] => false
  | c :: rest => (c.isAlpha || c = '_') && rest.all fun d => d.isAlphanum || d = '_'

theorem isAlphanum_or_underscore_of_mem {t : Text} {d : Char} (h : isIdentifier t = true) (hd : d ∈ t) :
    d.isAlphanum = true ∨ d = '_' := by
  cases t with
  | nil => exact absurd hd List.not_mem_nil
  | cons c rest =>
    simp only [isIdentifier, Bool.and_eq_true, Bool.or_eq_true, decide_eq_true_eq, List.all_eq_true] at h
    obtain ⟨hc, hrest⟩ := h
    rcases List.mem_cons.mp hd with rfl | hd
    · exact hc.imp_left fun halpha => by rw [Char.isAlphanum, halpha, Bool.true_or]
    · exact hrest d hd

end SwiftConnections
