import SwiftConnections.Proofs.Text.Occurrence

namespace SwiftConnections

namespace Text

variable {t : Text} {sep c : Char}

theorem split_eq_splitOn (t : Text) (sep : Char) : t.split sep = List.splitOn sep t := by
  induction t with
  | nil => rfl
  | cons c t ih =>
    rw [List.splitOn_cons_eq_if_modifyHead, split, ih]
    simp

theorem split_ne_nil (t : Text) (sep : Char) : t.split sep ≠ [] := by
  rw [split_eq_splitOn]
  exact List.splitOn_ne_nil sep t

theorem mem_of_mem_split {piece : Text} (hp : piece ∈ t.split sep) (hc : c ∈ piece) : c ∈ t := by
  induction t generalizing piece with
  | nil =>
    rw [split, List.mem_singleton] at hp
    rwa [hp] at hc
  | cons d t ih =>
    rw [split] at hp
    split at hp
    next =>
      rcases List.mem_cons.mp hp with rfl | hp
      · exact absurd hc List.not_mem_nil
      · exact List.mem_cons_of_mem d (ih hp hc)
    next =>
      cases hs : split t sep with
      | nil => simp [hs] at hp
      | cons first pieces =>
        rw [hs] at ih
        rw [hs, List.modifyHead_cons] at hp
        rcases List.mem_cons.mp hp with rfl | hp
        · exact (List.mem_cons.mp hc).elim (· ▸ List.mem_cons_self)
            fun hm => List.mem_cons_of_mem d (ih List.mem_cons_self hm)
        · exact List.mem_cons_of_mem d (ih (List.mem_cons_of_mem first hp) hc)

theorem separator_not_mem_piece {piece : Text} (hp : piece ∈ t.split sep) : sep ∉ piece := by
  induction t generalizing piece with
  | nil =>
    rw [split, List.mem_singleton] at hp
    simp [hp]
  | cons d t ih =>
    rw [split] at hp
    split at hp
    next =>
      rcases List.mem_cons.mp hp with rfl | hp
      · exact List.not_mem_nil
      · exact ih hp
    next hd =>
      obtain ⟨first, pieces, hs⟩ := List.exists_cons_of_ne_nil (split_ne_nil t sep)
      rw [hs] at ih
      rw [hs, List.modifyHead_cons] at hp
      rcases List.mem_cons.mp hp with rfl | hp
      · simp [Ne.symm hd, ih List.mem_cons_self]
      · exact ih (List.mem_cons_of_mem first hp)

theorem not_mem_join {sep : Text} {texts : List Text} (hs : c ∉ sep) (ht : ∀ t ∈ texts, c ∉ t) : c ∉ join sep texts := by
  unfold join
  induction texts with
  | nil => simp
  | cons t texts ih =>
    have hrest := ih fun u hu => ht u (List.mem_cons_of_mem t hu)
    have hfirst := ht t List.mem_cons_self
    cases texts with
    | nil => simpa using hfirst
    | cons u texts =>
      rw [List.intercalate_cons_cons]
      simp [hs, hfirst, hrest]

theorem join_split (t : Text) (sep : Char) : join [sep] (t.split sep) = t := by
  rw [split_eq_splitOn]
  exact List.intercalate_splitOn sep

theorem split_join {pieces : List Text} (h : ∀ piece ∈ pieces, sep ∉ piece) (hne : pieces ≠ []) :
    (join [sep] pieces).split sep = pieces := by
  rw [split_eq_splitOn]
  exact List.splitOn_intercalate sep h hne

theorem join_inj {pieces pieces' : List Text} (h : ∀ piece ∈ pieces, sep ∉ piece) (hne : pieces ≠ [])
    (h' : ∀ piece ∈ pieces', sep ∉ piece) (hne' : pieces' ≠ []) :
    join [sep] pieces = join [sep] pieces' ↔ pieces = pieces' := by
  refine ⟨fun heq => ?_, fun heq => by rw [heq]⟩
  rw [← split_join h hne, ← split_join h' hne', heq]

theorem join_append_head (sep a piece : Text) (pieces : List Text) :
    join sep ((a ++ piece) :: pieces) = a ++ join sep (piece :: pieces) := by
  cases pieces <;> simp [join, List.intercalate_cons_cons]

theorem join_cons (sep piece : Text) (pieces : List Text) :
    join sep (piece :: pieces) = piece ++ pieces.flatMap (sep ++ ·) := by
  induction pieces generalizing piece with
  | nil => simp [join]
  | cons next pieces ih =>
    have hjoin : join sep (piece :: next :: pieces) = piece ++ (sep ++ join sep (next :: pieces)) := by
      simp [join, List.intercalate_cons_cons]
    rw [hjoin, ih, List.flatMap_cons, List.append_assoc]

theorem join_append_separator {pieces : List Text} (hne : pieces ≠ []) :
    join [sep] pieces ++ [sep] = pieces.flatMap (· ++ [sep]) := by
  induction pieces with
  | nil => exact absurd rfl hne
  | cons piece pieces ih =>
    cases pieces with
    | nil => simp [join]
    | cons next pieces =>
      have hrest := ih (List.cons_ne_nil next pieces)
      rw [List.flatMap_cons, ← hrest]
      simp [join, List.intercalate_cons_cons]

theorem join_concat (sep : Char) (pieces : List Text) (piece : Text) :
    join [sep] (pieces ++ [piece]) = pieces.flatMap (· ++ [sep]) ++ piece := by
  have hpieces : join [sep] (pieces ++ [piece]) ++ [sep] = (pieces ++ [piece]).flatMap (· ++ [sep]) :=
    join_append_separator (List.concat_ne_nil piece pieces)
  rw [List.flatMap_append, List.flatMap_singleton, ← List.append_assoc] at hpieces
  exact List.append_cancel_right hpieces

theorem append_separator_inj {a a' b b' : Text} (h : sep ∉ a) (h' : sep ∉ a')
    (heq : a ++ sep :: b = a' ++ sep :: b') : a = a' ∧ b = b' := by
  have hcut : cut? (a ++ sep :: b) [sep] = some (a, b) := @cut?_append sep [] a b h
  have hcut' : cut? (a' ++ sep :: b') [sep] = some (a', b') := @cut?_append sep [] a' b' h'
  rw [heq, hcut'] at hcut
  cases hcut
  exact ⟨rfl, rfl⟩

/-- Pieces with a separator after each can be told apart from the text after them only as far as that text
does not begin with such pieces. -/
theorem flatMap_separator_append_eq_iff {pieces pieces' : List Text} {u : Text} (h : ∀ piece ∈ pieces, sep ∉ piece)
    (h' : ∀ piece ∈ pieces', sep ∉ piece) :
    pieces.flatMap (· ++ [sep]) ++ t = pieces'.flatMap (· ++ [sep]) ++ u ↔
      ∃ extra, (pieces' = pieces ++ extra ∧ t = extra.flatMap (· ++ [sep]) ++ u) ∨
        (pieces = pieces' ++ extra ∧ u = extra.flatMap (· ++ [sep]) ++ t) := by
  constructor
  · intro heq
    induction pieces generalizing pieces' with
    | nil => exact ⟨pieces', .inl ⟨rfl, heq⟩⟩
    | cons piece pieces ih =>
      cases pieces' with
      | nil => exact ⟨piece :: pieces, .inr ⟨rfl, heq.symm⟩⟩
      | cons piece' pieces' =>
        obtain ⟨hpiece, hpieces⟩ := List.forall_mem_cons.mp h
        obtain ⟨hpiece', hpieces'⟩ := List.forall_mem_cons.mp h'
        simp only [List.flatMap_cons, List.append_assoc, List.singleton_append] at heq
        obtain ⟨rfl, hrest⟩ := append_separator_inj hpiece hpiece' heq
        obtain ⟨extra, hextra⟩ := ih hpieces hpieces' hrest
        exact ⟨extra, hextra.imp (.imp_left (congrArg _)) (.imp_left (congrArg _))⟩
  · rintro ⟨extra, ⟨rfl, rfl⟩ | ⟨rfl, rfl⟩⟩ <;> simp

theorem split_append_of_not_mem {a : Text} (h : sep ∉ a) (b : Text) :
    split (a ++ b) sep = (b.split sep).modifyHead (a ++ ·) := by
  induction a with
  | nil => exact (congrFun List.modifyHead_id (b.split sep)).symm
  | cons c a ih =>
    have hc : c ≠ sep := fun heq => h (heq ▸ List.mem_cons_self)
    have ha : sep ∉ a := fun hm => h (List.mem_cons_of_mem c hm)
    rw [List.cons_append, split, if_neg hc, ih ha, List.modifyHead_modifyHead]
    rfl

theorem split_append (a b : Text) (sep : Char) : split (a ++ sep :: b) sep = a.split sep ++ b.split sep := by
  simp only [split_eq_splitOn]
  exact List.splitOn_append_cons_self a b

/-- The pieces of the last text are found again, whatever stands before it. -/
theorem mem_split_join_concat {piece last : Text} (h : piece ∈ last.split sep) (texts : List Text) :
    piece ∈ (join [sep] (texts ++ [last])).split sep := by
  rw [join_concat]
  induction texts with
  | nil => exact h
  | cons first texts ih =>
    rw [List.flatMap_cons, List.append_assoc, List.append_assoc, List.singleton_append, split_append]
    exact List.mem_append_right _ ih

/-- With a separator before the text, one stands before each piece. -/
theorem separator_cons_eq (t : Text) (sep : Char) : sep :: t = (t.split sep).flatMap (sep :: ·) := by
  induction t with
  | nil => rfl
  | cons c t ih =>
    rw [split]
    split
    next hc => rw [List.flatMap_cons, ← ih, hc, List.singleton_append]
    next =>
      cases hs : split t sep with
      | nil => simp [hs] at ih
      | cons piece pieces =>
        rw [hs, List.flatMap_cons, List.cons_append, List.cons_inj_right] at ih
        rw [List.modifyHead_cons, List.flatMap_cons, List.cons_append, List.cons_append, ← ih]

theorem exists_head?_split_iff (hc : c ≠ sep) :
    (∃ piece ∈ t.split sep, piece.head? = some c) ↔ [sep, c] <:+: sep :: t := by
  constructor
  · rintro ⟨piece, hp, hhead⟩
    obtain ⟨rest, rfl⟩ := List.head?_eq_some_iff.mp hhead
    have hstart : [sep, c] <+: sep :: c :: rest := ⟨rest, rfl⟩
    rw [separator_cons_eq t, List.flatMap_def]
    exact hstart.isInfix.trans (List.infix_of_mem_flatten (List.mem_map_of_mem hp))
  · rintro ⟨before, after, h⟩
    have hfirst : ∃ piece ∈ split (c :: after) sep, piece.head? = some c := by
      cases hs : split after sep with
      | nil => simp [split_eq_splitOn] at hs
      | cons piece pieces => exact ⟨c :: piece, by simp [split, hc, hs], rfl⟩
    obtain ⟨piece, hp, hhead⟩ := hfirst
    refine ⟨piece, ?_, hhead⟩
    cases before with
    | nil =>
      obtain ⟨-, rfl⟩ := List.cons.inj h
      exact hp
    | cons d before =>
      have ht : t = before ++ sep :: c :: after := by simpa using (List.cons.inj h).2.symm
      rw [ht, split_append]
      exact List.mem_append_right _ hp

end Text

end SwiftConnections
