import SwiftConnections.Words

namespace SwiftConnections

variable {c d : Char} {more : Text}

/-- The words of a text from its end: each letter or number joins the word behind it, or it is a word of its own. -/
def cutWords : Text → List Text
  | [] => []
  | c :: rest =>
    if isAlphanumeric c then
      match rest with
      | [] => [[c]]
      | d :: more =>
        if isAlphanumeric d && !wordBegins c d more.head? then (cutWords rest).modifyHead (c :: ·)
        else [c] :: cutWords rest
    else cutWords rest

theorem cutWords_cons_of_separator (hc : isAlphanumeric c = false) (rest : Text) :
    cutWords (c :: rest) = cutWords rest := by
  cases rest <;> simp [cutWords, hc]

theorem cutWords_singleton (hc : isAlphanumeric c = true) : cutWords [c] = [[c]] := by
  rw [cutWords, if_pos hc]

theorem cutWords_cons_of_cut (hc : isAlphanumeric c = true)
    (hcut : (isAlphanumeric d && !wordBegins c d more.head?) = false) :
    cutWords (c :: d :: more) = [c] :: cutWords (d :: more) := by
  rw [cutWords, if_pos hc]
  simp only [hcut, Bool.false_eq_true, if_false]

theorem cutWords_cons_of_join (hc : isAlphanumeric c = true)
    (hjoin : (isAlphanumeric d && !wordBegins c d more.head?) = true) :
    cutWords (c :: d :: more) = (cutWords (d :: more)).modifyHead (c :: ·) := by
  rw [cutWords, if_pos hc]
  simp only [hjoin, if_true]

theorem exists_cutWords_cons (hc : isAlphanumeric c = true) (rest : Text) :
    ∃ first others, cutWords (c :: rest) = (c :: first) :: others := by
  induction rest generalizing c with
  | nil => exact ⟨[], [], cutWords_singleton hc⟩
  | cons d more ih =>
    cases hjoin : isAlphanumeric d && !wordBegins c d more.head? with
    | false => exact ⟨[], _, cutWords_cons_of_cut hc hjoin⟩
    | true =>
      have hd : isAlphanumeric d = true := (Bool.and_eq_true_iff.mp hjoin).1
      obtain ⟨first, others, hwords⟩ := ih hd
      exact ⟨d :: first, others, by rw [cutWords_cons_of_join hc hjoin, hwords, List.modifyHead_cons]⟩

namespace WordScan

variable {s : WordScan} {ws : List Text}

theorem cut_concat (ended : List Text) (w : Text) (p : Char) :
    (⟨ended, w ++ [p]⟩ : WordScan).cut = ⟨ended ++ [w ++ [p]], []⟩ :=
  if_neg (List.append_ne_nil_of_right_ne_nil _ (List.cons_ne_nil p []))

theorem push_separator (hc : isAlphanumeric c = false) (s : WordScan) (following : Option Char) :
    s.push c following = s.cut :=
  if_neg (Bool.eq_false_iff.mp hc)

theorem push_first (hc : isAlphanumeric c = true) (ended : List Text) (following : Option Char) :
    (⟨ended, []⟩ : WordScan).push c following = ⟨ended, [c]⟩ :=
  if_pos hc

/-- Within a word the character begins a new one, or the word goes on with it. -/
theorem push_next (hc : isAlphanumeric c = true) (ended : List Text) (w : Text) (p : Char) (following : Option Char) :
    (⟨ended, w ++ [p]⟩ : WordScan).push c following =
      if wordBegins p c following then ⟨ended ++ [w ++ [p]], [c]⟩ else ⟨ended, w ++ [p] ++ [c]⟩ := by
  rw [push, if_pos hc, List.getLast?_concat, Option.any_some]
  split
  next => rw [cut_concat]; rfl
  next => rfl

/-- The scan has come to the rest of a text with these words. They are those that have ended and those of the rest. Within a
word they are found as if its last character were the first of the rest, and the start of the word is put before it. -/
inductive Reads : WordScan → Text → List Text → Prop
  | between (ended : List Text) (rest : Text) : Reads ⟨ended, []⟩ rest (ended ++ cutWords rest)
  | within {p : Char} (hp : isAlphanumeric p = true) (ended : List Text) (w rest : Text) :
    Reads ⟨ended, w ++ [p]⟩ rest (ended ++ (cutWords (p :: rest)).modifyHead (w ++ ·))

theorem Reads.first (hc : isAlphanumeric c = true) (ended : List Text) (rest : Text) :
    Reads ⟨ended, [c]⟩ rest (ended ++ cutWords (c :: rest)) := by
  have hwithin := Reads.within hc ended [] rest
  obtain ⟨first, others, hwords⟩ := exists_cutWords_cons hc rest
  rw [hwords] at hwithin ⊢
  exact hwithin

/-- A word that ends with the last character that was read is one of those that have ended. -/
theorem Reads.cut {p : Char} {ended others : List Text} {w rest rest' : Text} (hcut : cutWords (p :: rest) = [p] :: others)
    (h : Reads s rest' (ended ++ [w ++ [p]] ++ others)) :
    Reads s rest' (ended ++ (cutWords (p :: rest)).modifyHead (w ++ ·)) := by
  rw [hcut, List.modifyHead_cons]
  rwa [List.append_assoc, List.singleton_append] at h

/-- The words stay the same when one more character is read. -/
theorem Reads.push {rest : Text} (h : Reads s (c :: rest) ws) : Reads (s.push c rest.head?) rest ws := by
  cases hc : isAlphanumeric c with
  | false =>
    rw [push_separator hc]
    cases h with
    | between ended =>
      rw [cutWords_cons_of_separator hc]
      exact .between ended rest
    | @within p hp ended w =>
      have hcut : (isAlphanumeric c && !wordBegins p c rest.head?) = false := by rw [hc, Bool.false_and]
      have hwords : cutWords (p :: c :: rest) = [p] :: cutWords rest := by
        rw [cutWords_cons_of_cut hp hcut, cutWords_cons_of_separator hc]
      rw [cut_concat]
      exact .cut hwords (.between _ rest)
  | true =>
    cases h with
    | between ended =>
      rw [push_first hc]
      exact .first hc ended rest
    | @within p hp ended w =>
      rw [push_next hc]
      cases hbegins : wordBegins p c rest.head? with
      | true =>
        have hcut : (isAlphanumeric c && !wordBegins p c rest.head?) = false := by
          rw [hbegins, Bool.not_true, Bool.and_false]
        rw [if_pos rfl]
        exact .cut (cutWords_cons_of_cut hp hcut) (.first hc _ rest)
      | false =>
        have hjoin : (isAlphanumeric c && !wordBegins p c rest.head?) = true := by rw [hc, hbegins]; rfl
        have hstart : (w ++ ·) ∘ (p :: ·) = (w ++ [p] ++ · : Text → Text) := by funext t; simp
        rw [if_neg Bool.false_ne_true, cutWords_cons_of_join hp hjoin, List.modifyHead_modifyHead, hstart]
        exact .within hc ended (w ++ [p]) rest

theorem Reads.ended_cut (h : Reads s [] ws) : s.cut.ended = ws := by
  cases h with
  | between ended => exact (List.append_nil ended).symm
  | @within p hp ended w =>
    rw [cut_concat, cutWords_singleton hp]
    rfl

theorem Reads.ended_cut_run {t : Text} (h : Reads s t ws) : (s.run t).cut.ended = ws := by
  induction t generalizing s with
  | nil => exact h.ended_cut
  | cons c rest ih => exact ih h.push

end WordScan

/-- Reading a text once from its start finds the same words as going by each character and its neighbours. -/
theorem words_eq_cutWords (t : Text) : words t = cutWords t :=
  (WordScan.Reads.between [] t).ended_cut_run

theorem words_eq_nil_iff {t : Text} : words t = [] ↔ t.any isAlphanumeric = false := by
  rw [words_eq_cutWords]
  induction t with
  | nil => simp [cutWords]
  | cons c rest ih =>
    cases hc : isAlphanumeric c with
    | true =>
      obtain ⟨first, others, hwords⟩ := exists_cutWords_cons hc rest
      simp [hwords, hc]
    | false => rw [cutWords_cons_of_separator hc, ih, List.any_cons, hc, Bool.false_or]

/-- The words put together are the characters that are no separators. -/
theorem flatten_words (t : Text) : (words t).flatten = t.filter isAlphanumeric := by
  rw [words_eq_cutWords]
  induction t using cutWords.induct with
  | case1 => rfl
  | case2 c hc => rw [cutWords_singleton hc, List.filter_cons_of_pos hc]; rfl
  | case3 c hc d more hjoin ih =>
    have hd : isAlphanumeric d = true := (Bool.and_eq_true_iff.mp hjoin).1
    obtain ⟨first, others, hwords⟩ := exists_cutWords_cons hd more
    rw [cutWords_cons_of_join hc hjoin, List.filter_cons_of_pos hc, ← ih, hwords]
    rfl
  | case4 c hc d more hcut ih =>
    rw [cutWords_cons_of_cut hc (Bool.eq_false_iff.mpr hcut), List.flatten_cons, ih, List.filter_cons_of_pos hc]
    rfl
  | case5 c rest hc ih =>
    rw [cutWords_cons_of_separator (Bool.eq_false_iff.mpr hc), List.filter_cons_of_neg hc, ih]

theorem mem_of_mem_words {t word : Text} (hw : word ∈ words t) (hc : c ∈ word) : c ∈ t ∧ isAlphanumeric c = true := by
  have hflat : c ∈ (words t).flatten := List.mem_flatten.mpr ⟨word, hw, hc⟩
  rw [flatten_words] at hflat
  exact List.mem_filter.mp hflat

theorem isAlphanumeric_of_mem_words {t word : Text} (hw : word ∈ words t) : ∀ c ∈ word, isAlphanumeric c = true :=
  fun _ hc => (mem_of_mem_words hw hc).2

/-- Behind the last character of a name a separator that is no small letter looks like the end. -/
theorem wordBegins_append_separator {sep : Char} (hlower : isLowercase sep = false) (previous c : Char) (more y : Text) :
    wordBegins previous c (more ++ sep :: y).head? = wordBegins previous c more.head? := by
  cases more with
  | nil => simp [wordBegins, hlower]
  | cons => rfl

theorem words_append_separator {sep : Char} (hsep : isAlphanumeric sep = false) (hlower : isLowercase sep = false)
    (x y : Text) : words (x ++ sep :: y) = words x ++ words y := by
  rw [words_eq_cutWords, words_eq_cutWords, words_eq_cutWords]
  induction x using cutWords.induct with
  | case1 => exact cutWords_cons_of_separator hsep y
  | case2 c hc =>
    have hcut : (isAlphanumeric sep && !wordBegins c sep y.head?) = false := by rw [hsep, Bool.false_and]
    rw [List.singleton_append, cutWords_cons_of_cut hc hcut, cutWords_singleton hc, cutWords_cons_of_separator hsep]
    rfl
  | case3 c hc d more hjoin ih =>
    have hjoin' : (isAlphanumeric d && !wordBegins c d (more ++ sep :: y).head?) = true := by
      rwa [wordBegins_append_separator hlower]
    have hd : isAlphanumeric d = true := (Bool.and_eq_true_iff.mp hjoin).1
    obtain ⟨first, others, hwords⟩ := exists_cutWords_cons hd more
    rw [hwords] at ih
    calc cutWords (c :: d :: (more ++ sep :: y))
        = (cutWords (d :: (more ++ sep :: y))).modifyHead (c :: ·) := cutWords_cons_of_join hc hjoin'
      _ = ((d :: first) :: others ++ cutWords y).modifyHead (c :: ·) := congrArg _ ih
      _ = cutWords (c :: d :: more) ++ cutWords y := by rw [cutWords_cons_of_join hc hjoin, hwords]; rfl
  | case4 c hc d more hcut ih =>
    have hcut' : (isAlphanumeric d && !wordBegins c d (more ++ sep :: y).head?) = false := by
      rw [wordBegins_append_separator hlower]
      exact Bool.eq_false_iff.mpr hcut
    calc cutWords (c :: d :: (more ++ sep :: y))
        = [c] :: cutWords (d :: (more ++ sep :: y)) := cutWords_cons_of_cut hc hcut'
      _ = [c] :: (cutWords (d :: more) ++ cutWords y) := congrArg _ ih
      _ = cutWords (c :: d :: more) ++ cutWords y := by
        rw [cutWords_cons_of_cut hc (Bool.eq_false_iff.mpr hcut)]
        rfl
  | case5 c rest hc ih =>
    have hc' : isAlphanumeric c = false := Bool.eq_false_iff.mpr hc
    rw [List.cons_append, cutWords_cons_of_separator hc', cutWords_cons_of_separator hc', ih]

end SwiftConnections
