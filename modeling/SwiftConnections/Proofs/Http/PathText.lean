import Mathlib.Data.List.DropRight
import SwiftConnections.Proofs.Http.TypedReading
import SwiftConnections.Proofs.Text.Pieces

namespace SwiftConnections

/-- What is left of a value when its line is cut at the first colon with a blank behind it. -/
def beforeColon (value : Text) : Text :=
  ((value.cut? ": ").map (·.1)).getD value

/-- Escaping does not move the first occurrence of a pattern of unescaped characters. -/
theorem cut?_escaped {c : Char} {p t : Text} (hp : ∀ d ∈ c :: p, isUnescaped d) (hn : c ≠ 'n') :
    (Text.cut? (t.flatMap quotedChar ++ ['"']) (c :: p)).map (·.1) =
      (t.cut? (c :: p)).map (·.1.flatMap quotedChar) := by
  have hc := hp c List.mem_cons_self
  induction t with
  | nil =>
    have hquote : c ∉ ['"'] := by rintro h; simp_all [isUnescaped]
    have hcut := Text.cut?_append_of_not_mem (p := p) (b := []) hquote
    rw [List.append_nil] at hcut
    rw [List.flatMap_nil, List.nil_append, hcut]
    rfl
  | cons d t ih =>
    have hpre := prefix_escaped_iff (t := d :: t) hp
    by_cases h : c :: p <+: d :: t
    · rw [Text.cut?_of_isPrefix h, Text.cut?_of_isPrefix (hpre.mpr h)]
      rfl
    · have hd : Text.cut? ((d :: t).flatMap quotedChar ++ ['"']) (c :: p) =
          (Text.cut? (t.flatMap quotedChar ++ ['"']) (c :: p)).map
            fun found => (quotedChar d ++ found.1, found.2) := by
        by_cases hcd : c = d
        · subst d
          rw [List.flatMap_cons, quotedChar_of_isUnescaped hc] at hpre ⊢
          exact Text.cut?_of_not_isPrefix (mt hpre.mp h)
        · rw [List.flatMap_cons, List.append_assoc]
          exact Text.cut?_append_of_not_mem (not_mem_quotedChar hc hn hcd)
      have hstep := congrArg (Option.map (quotedChar d ++ ·)) ih
      rw [Option.map_map, Option.map_map] at hstep
      rw [hd, Text.cut?_of_not_isPrefix h, Option.map_map, Option.map_map]
      exact hstep

theorem dropWhile_escaped {t tail : Text} (htail : ∀ c ∈ tail, c = '"') :
    (t.flatMap quotedChar ++ tail).dropWhile (· = '"') = if t = [] then [] else t.flatMap quotedChar ++ tail := by
  cases t with
  | nil => simpa using htail
  | cons c t =>
    rw [if_neg (List.cons_ne_nil c t), List.flatMap_cons]
    by_cases hc : isUnescaped c
    · have hq : c ≠ '"' := by rintro rfl; simp [isUnescaped] at hc
      simp [quotedChar_of_isUnescaped hc, hq]
    · obtain ⟨d, -, hd⟩ := quotedChar_of_not_isUnescaped hc
      simp [hd]

theorem quotedChar_concat {c : Char} (hc : c ≠ '"') : ∃ start d, quotedChar c = start ++ [d] ∧ d ≠ '"' := by
  by_cases hb : c = '\\'
  · exact ⟨['\\'], '\\', by simp [quotedChar, hb], by decide⟩
  · by_cases hl : c = '\n'
    · exact ⟨['\\'], 'n', by simp [quotedChar, hl], by decide⟩
    · exact ⟨[], c, by simp [quotedChar, hc, hb, hl], hc⟩

/-- Of the quotes at the end of an escaped text, the last one is taken for the closing one, without the backslash
before it. -/
theorem dropEndWhile_escaped {t tail : Text} (htail : ∀ c ∈ tail, c = '"') :
    Text.dropEndWhile (t.flatMap quotedChar ++ tail) (· = '"') =
      if t.getLast? = some '"' then t.dropLast.flatMap quotedChar ++ ['\\'] else t.flatMap quotedChar := by
  have hend : Text.dropEndWhile (t.flatMap quotedChar ++ tail) (· = '"') =
      (t.flatMap quotedChar).rdropWhile (· = '"') := by
    have hdrop : tail.reverse.dropWhile (fun c => decide (c = '"')) = [] := by simpa using htail
    rw [Text.dropEndWhile, List.reverse_append, List.dropWhile_append, hdrop]
    rfl
  rw [hend]
  rcases List.eq_nil_or_concat' t with rfl | ⟨start, c, rfl⟩
  · rfl
  · rw [List.getLast?_concat, List.dropLast_concat, List.flatMap_append, List.flatMap_singleton]
    by_cases hq : c = '"'
    · subst c
      have hquote : quotedChar '"' = ['\\'] ++ ['"'] := rfl
      rw [if_pos rfl, hquote, ← List.append_assoc, List.rdropWhile_concat_pos _ _ _ (by decide),
        List.rdropWhile_concat_neg _ _ _ (by decide)]
    · obtain ⟨before, d, hc, hd⟩ := quotedChar_concat hq
      rw [if_neg (mt Option.some.inj hq), hc, ← List.append_assoc, List.rdropWhile_concat_neg _ _ _ (by simpa using hd)]

theorem dropBothWhile_escaped {t tail : Text} (htail : ∀ c ∈ tail, c = '"') :
    Text.dropBothWhile ('"' :: (t.flatMap quotedChar ++ tail)) (· = '"') =
      if t.getLast? = some '"' then t.dropLast.flatMap quotedChar ++ ['\\'] else t.flatMap quotedChar := by
  rw [Text.dropBothWhile, List.dropWhile_cons_of_pos (by decide), dropWhile_escaped htail]
  split
  next ht => subst ht; rfl
  next => exact dropEndWhile_escaped htail

/-- The path that a value gives is the value before a colon with a blank behind it, escaped, unless that ends with a
quote. -/
theorem pathText_eq (value : Text) : pathText value =
    if (beforeColon value).getLast? = some '"' then (beforeColon value).dropLast.flatMap quotedChar ++ ['\\']
    else (beforeColon value).flatMap quotedChar := by
  have hcut : (Text.cut? (value.flatMap quotedChar ++ ['"']) ": ").map (·.1) =
      (value.cut? ": ").map (·.1.flatMap quotedChar) :=
    cut?_escaped (c := ':') (p := [' ']) (by simp [isUnescaped]) (by decide)
  have hstart : (quoted value).cut? ": " =
      (Text.cut? (value.flatMap quotedChar ++ ['"']) ": ").map fun found => ('"' :: found.1, found.2) :=
    Text.cut?_append_of_not_mem (c := ':') (p := [' ']) (a := ['"']) (by decide)
  have hquoted : ((quoted value).cut? ": ").map (·.1) =
      ((value.cut? ": ").map (·.1.flatMap quotedChar)).map ('"' :: ·) := by
    rw [hstart, ← hcut, Option.map_map, Option.map_map]
    rfl
  rw [pathText, hquoted, beforeColon]
  cases value.cut? ": " with
  | none => exact dropBothWhile_escaped (by simp)
  | some found =>
    have htext := @dropBothWhile_escaped found.1 [] (by simp)
    rw [List.append_nil] at htext
    exact htext

theorem beforeColon_isPrefix (value : Text) : beforeColon value <+: value := by
  rw [beforeColon]
  cases h : value.cut? ": " with
  | none => exact List.prefix_refl value
  | some found =>
    rw [Text.eq_of_cut? (a := found.1) (b := found.2) h, List.append_assoc]
    exact List.prefix_append _ _

theorem beforeColon_eq_self_iff {value : Text} : beforeColon value = value ↔ value.contains ": " = false := by
  rw [← Text.cut?_eq_none_iff, beforeColon]
  cases h : value.cut? ": " with
  | none => simp
  | some found =>
    have hlength := congrArg List.length (Text.eq_of_cut? (a := found.1) (b := found.2) h)
    simp only [List.length_append, String.length_toList] at hlength
    have hshorter : found.1 ≠ value := fun heq => by
      rw [← heq] at hlength
      have hcolon : ": ".length = 2 := rfl
      omega
    simpa using hshorter

theorem pathText_isPrefix (value : Text) : pathText value <+: value.flatMap quotedChar := by
  have hescaped : (beforeColon value).flatMap quotedChar <+: value.flatMap quotedChar := by
    obtain ⟨rest, hrest⟩ := beforeColon_isPrefix value
    exact ⟨rest.flatMap quotedChar, by rw [← List.flatMap_append, hrest]⟩
  rw [pathText_eq]
  split
  next hlast =>
    obtain ⟨start, hstart⟩ := List.getLast?_eq_some_iff.mp hlast
    refine List.IsPrefix.trans ?_ hescaped
    rw [hstart, List.dropLast_concat, List.flatMap_append]
    exact ⟨['"'], by simp [quotedChar]⟩
  next => exact hescaped

/-- No piece of a path begins with a brace after it was escaped and read back if none did before. -/
theorem pathText_pieces {value : Text} (h : ∀ piece ∈ value.split '/', piece.head? ≠ some '{') :
    ∀ piece ∈ (pathText value).split '/', piece.head? ≠ some '{' := by
  intro piece hp hhead
  have hbrace : ['/', '{'] <:+: '/' :: pathText value :=
    (Text.exists_head?_split_iff (by decide)).mp ⟨piece, hp, hhead⟩
  have hprefix : '/' :: pathText value <+: ('/' :: value).flatMap quotedChar ++ ['"'] := by
    have hslash : ('/' :: value).flatMap quotedChar = '/' :: value.flatMap quotedChar := rfl
    rw [hslash]
    exact ((List.prefix_cons_inj '/').mpr (pathText_isPrefix value)).trans (List.prefix_append _ _)
  have hvalue : ['/', '{'] <:+: '/' :: value :=
    (infix_escaped_iff (by simp [isUnescaped]) (by decide)).mp (hbrace.trans hprefix.isInfix)
  obtain ⟨piece', hp', hhead'⟩ := (Text.exists_head?_split_iff (by decide)).mpr hvalue
  exact h piece' hp' hhead'

theorem PathTemplate.render_ofPath {path : Text} (h : ∀ piece ∈ path.split '/', piece.head? ≠ some '{')
    (f : Text → Text) : (ofPath path).render f = path := by
  have hpieces : ∀ piece ∈ path.split '/', PathSegment.ofPiece piece = .literal piece :=
    fun piece hp => if_neg (h piece hp)
  have hsame : (path.split '/').map PathSegment.ofPiece = (path.split '/').map .literal :=
    List.map_congr_left hpieces
  rw [render, ofPath, hsame, List.map_map]
  exact (congrArg (Text.join "/") (List.map_id _)).trans (Text.join_split path '/')

end SwiftConnections
