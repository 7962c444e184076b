import Mathlib.Data.List.DropRight
import Mathlib.Data.List.Forall2
import SwiftConnections.Http.PathTemplate
import SwiftConnections.Proofs.Http.PathText
import SwiftConnections.Proofs.Identifiers

namespace SwiftConnections

/-- What is left of a text without the characters of a kind at both its ends. -/
structure Text.IsTrimmed (p : Char → Bool) (t inner : Text) : Prop where
  ends : ∃ before after, t = before ++ inner ++ after ∧ (∀ c ∈ before, p c = true) ∧ ∀ c ∈ after, p c = true
  head : ∀ c ∈ inner.head?, p c = false
  last : ∀ c ∈ inner.getLast?, p c = false

theorem Text.dropBothWhile_isTrimmed (t : Text) (p : Char → Bool) : IsTrimmed p t (t.dropBothWhile p) where
  ends := by
    refine ⟨t.takeWhile p, (t.dropWhile p).rtakeWhile p, ?_, fun c hc => List.mem_takeWhile_imp hc,
      fun c hc => List.mem_rtakeWhile_imp hc⟩
    have hrest : t.dropBothWhile p ++ (t.dropWhile p).rtakeWhile p = t.dropWhile p :=
      List.rdropWhile_append_rtakeWhile
    rw [List.append_assoc, hrest, List.takeWhile_append_dropWhile]
  head := by
    intro c hc
    have hprefix : t.dropBothWhile p <+: t.dropWhile p := List.rdropWhile_prefix _ _
    obtain ⟨rest, hrest⟩ := hprefix
    have hhead : (t.dropWhile p).head? = some c := by
      rw [← hrest, List.head?_append, Option.mem_def.mp hc, Option.some_or]
    have hkept := List.head?_dropWhile_not p t
    rwa [hhead] at hkept
  last := by
    intro c hc
    obtain ⟨hne, rfl⟩ := List.mem_getLast?_eq_getLast hc
    exact Bool.eq_false_iff.mpr (List.rdropWhile_last_not p (t.dropWhile p) hne)

namespace PathSegment

/-- What a piece of a path between slashes stands for. -/
inductive Reads : Text → PathSegment → Prop
  | literal {piece : Text} (h : piece.head? ≠ some '{') : Reads piece (.literal piece)
  /-- The dotted parts of the field are those of the piece without the braces at its ends, in lower camel case. -/
  | field {piece inner name : Text} (h : piece.head? = some '{') (hinner : piece.IsTrimmed isBrace inner)
    (hparts : name.split '.' = (inner.split '.').map lowerCamel) : Reads piece (.field name)

theorem reads_ofPiece (piece : Text) : Reads piece (ofPiece piece) := by
  rw [ofPiece]
  split
  next h =>
    refine .field h (piece.dropBothWhile_isTrimmed isBrace) (Text.split_join ?_ ?_)
    · intro part hpart
      obtain ⟨part, -, rfl⟩ := List.mem_map.mp hpart
      exact not_mem_lowerCamel (by decide)
    · simpa using Text.split_ne_nil _ '.'
  next h => exact .literal h

/-- The segment with a field written by `f`. -/
def written (f : Text → Text) : PathSegment → Text
  | literal t => t
  | field name => f name

variable {piece : Text} {segment : PathSegment}

theorem Reads.slash_not_mem_field {name : Text} (h : Reads piece (.field name)) : '/' ∉ name := by
  have hpart : ∀ part ∈ name.split '.', '/' ∉ part := by
    intro part hpart
    cases h with
    | field _ _ hparts =>
      rw [hparts] at hpart
      obtain ⟨part, -, rfl⟩ := List.mem_map.mp hpart
      exact not_mem_lowerCamel (by decide)
  have hjoin : '/' ∉ Text.join ['.'] (name.split '.') := Text.not_mem_join (by decide) hpart
  rwa [Text.join_split] at hjoin

theorem Reads.slash_not_mem_written (h : Reads piece segment) (hpiece : '/' ∉ piece) {f : Text → Text}
    (hf : ∀ name, '/' ∉ name → '/' ∉ f name) : '/' ∉ segment.written f := by
  cases segment with
  | literal t =>
    cases h with
    | literal => exact hpiece
  | field name => exact hf name h.slash_not_mem_field

end PathSegment

/-- A field in braces becomes an interpolation; another piece stays as it is. -/
def interpolated (piece : Text) : Text :=
  if piece.head? = some '{' then "\\(request." ++ piece.tail.dropLast ++ ")" else piece

theorem PathSegment.Reads.interpolated_written {piece : Text} {segment : PathSegment} (h : Reads piece segment) :
    interpolated (segment.written fun name => "\x7b" ++ name ++ "\x7d") =
      segment.written fun name => "\\(request." ++ name ++ ")" := by
  cases segment with
  | literal t =>
    cases h with
    | literal hhead => exact if_neg hhead
  | field name =>
    have hinner : ("\x7b" ++ name ++ "\x7d" : Text).tail.dropLast = name := List.dropLast_concat
    simp only [written]
    rw [interpolated, hinner]
    exact if_pos rfl

namespace PathTemplate

theorem reads_ofPath (path : Text) : List.Forall₂ PathSegment.Reads (path.split '/') (ofPath path).segments := by
  rw [ofPath, List.forall₂_map_right_iff, List.forall₂_same]
  exact fun piece _ => PathSegment.reads_ofPiece piece

theorem render_eq (f : Text → Text) (template : PathTemplate) :
    template.render f = Text.join ['/'] (template.segments.map (PathSegment.written f)) := by
  refine congrArg (Text.join ['/']) (List.map_congr_left fun segment _ => ?_)
  cases segment <;> rfl

theorem exists_piece {path : Text} {segment : PathSegment} (h : segment ∈ (ofPath path).segments) :
    ∃ piece ∈ path.split '/', PathSegment.Reads piece segment := by
  obtain ⟨piece, hpiece, rfl⟩ := List.mem_map.mp h
  exact ⟨piece, hpiece, PathSegment.reads_ofPiece piece⟩

/-- The segments can be read off the rendered path if the fields are written without slashes. -/
theorem split_render (path : Text) {f : Text → Text} (hf : ∀ name, '/' ∉ name → '/' ∉ f name) :
    ((ofPath path).render f).split '/' = (ofPath path).segments.map (PathSegment.written f) := by
  rw [render_eq]
  refine Text.split_join ?_ ?_
  · intro t ht
    obtain ⟨segment, hsegment, rfl⟩ := List.mem_map.mp ht
    obtain ⟨piece, hpiece, hreads⟩ := exists_piece hsegment
    exact hreads.slash_not_mem_written (Text.separator_not_mem_piece hpiece) hf
  · simpa [ofPath] using Text.split_ne_nil path '/'

theorem split_display (path : Text) : (ofPath path).display.split '/' =
    (ofPath path).segments.map (PathSegment.written fun name => "\x7b" ++ name ++ "\x7d") :=
  split_render path fun name hname => by simpa using hname

theorem split_swiftLiteral (path : Text) :
    (ofPath path).swiftLiteral.split '/' = ((ofPath path).display.split '/').map interpolated := by
  have hsplit : (ofPath path).swiftLiteral.split '/' =
      (ofPath path).segments.map (PathSegment.written fun name => "\\(request." ++ name ++ ")") :=
    split_render path fun name hname => by simpa using hname
  rw [hsplit, split_display, List.map_map]
  refine List.map_congr_left fun segment hsegment => ?_
  obtain ⟨piece, -, hreads⟩ := exists_piece hsegment
  exact hreads.interpolated_written.symm

theorem reads_parameters {pieces : List Text} {segments : List PathSegment}
    (h : List.Forall₂ PathSegment.Reads pieces segments) :
    List.Forall₂ (fun piece name => PathSegment.Reads piece (.field name)) (pieces.filter (·.head? = some '{'))
      (parameters ⟨segments⟩) := by
  induction h with
  | nil => exact .nil
  | @cons piece segment pieces segments hreads _ ih =>
    cases segment with
    | literal t =>
      have hhead : piece.head? ≠ some '{' := by
        cases hreads with
        | literal hhead => exact hhead
      rw [List.filter_cons_of_neg (by simpa using hhead)]
      exact ih
    | field name =>
      have hhead : piece.head? = some '{' := by
        cases hreads with
        | field hhead => exact hhead
      rw [List.filter_cons_of_pos (by simpa using hhead)]
      exact .cons hreads ih

/-- A path keeps its pieces: each stands for one segment, and each segment can be read off the renderings of the path. -/
theorem ofPath_keeps_pieces (path : Text) :
    let template := ofPath path
    List.Forall₂ PathSegment.Reads (path.split '/') template.segments ∧
    template.display.split '/' = template.segments.map (PathSegment.written fun name => "\x7b" ++ name ++ "\x7d") ∧
    template.swiftLiteral.split '/' = (template.display.split '/').map interpolated ∧
    List.Forall₂ (fun piece name => PathSegment.Reads piece (.field name))
      ((path.split '/').filter (·.head? = some '{')) template.parameters ∧
    ((∀ piece ∈ path.split '/', piece.head? ≠ some '{') → template.display = path ∧ template.swiftLiteral = path) :=
  ⟨reads_ofPath path, split_display path, split_swiftLiteral path, reads_parameters (reads_ofPath path),
    fun h => ⟨render_ofPath h _, render_ofPath h _⟩⟩

theorem ofPath_keeps_pieces_braces :
    let path : Text := "/v1/\x7b\x7bchan_point.url_id\x7d/\x7b\x7da\x7d"
    let plain : Text := "/v1/a\x7bb\x7d"
    (ofPath path).display.split '/' = ["".toList, "v1".toList, "\x7bchanPoint.urlID\x7d".toList, "\x7ba\x7d".toList] ∧
    (ofPath path).swiftLiteral.split '/' = ((ofPath path).display.split '/').map interpolated ∧
    List.Forall₂ (fun piece name => PathSegment.Reads piece (.field name))
      ["\x7b\x7bchan_point.url_id\x7d".toList, "\x7b\x7da\x7d".toList] ["chanPoint.urlID".toList, "a".toList] ∧
    (∀ piece ∈ plain.split '/', piece.head? ≠ some '{') ∧ (ofPath plain).display = plain := by
  intro path plain
  obtain ⟨-, -, hliteral, hparameters, -⟩ := ofPath_keeps_pieces path
  obtain ⟨-, -, -, -, hplain⟩ := ofPath_keeps_pieces plain
  have hpieces : ∀ piece ∈ plain.split '/', piece.head? ≠ some '{' := by decide
  exact ⟨by decide, hliteral, hparameters, hpieces, (hplain hpieces).1⟩

end PathTemplate

end SwiftConnections
