import Mathlib.Logic.Function.Basic
import SwiftConnections.Hexadecimal
import SwiftConnections.Json
import SwiftConnections.Proofs.Text.Pieces

namespace SwiftConnections

/-- What `f` writes for `a` ends by itself: with any text behind it, it is told from all else that `f` writes. -/
def Delimits {α : Type} (f : α → Text) (a : α) : Prop :=
  ∀ b r s, f a ++ r = f b ++ s → a = b ∧ r = s

theorem Delimits.of_read {α : Type} {f : α → Text} {read? : Text → Option (α × Text)}
    (h : ∀ a r, read? (f a ++ r) = some (a, r)) (a : α) : Delimits f a := by
  intro b r s heq
  have hread := h a r
  rw [heq, h b s, Option.some.injEq, Prod.mk.injEq] at hread
  exact ⟨hread.1.symm, hread.2.symm⟩

theorem Delimits.pair {α β : Type} {f : α → Text} {g : β → Text} {p : α × β} (hf : Delimits f p.1) (hg : Delimits g p.2)
    (between : Text) : Delimits (fun p : α × β => f p.1 ++ between ++ g p.2) p := by
  intro q r s h
  simp only [List.append_assoc] at h
  obtain ⟨hfst, hrest⟩ := hf _ _ _ h
  obtain ⟨hsnd, htail⟩ := hg _ _ _ (List.append_cancel_left hrest)
  exact ⟨Prod.ext hfst hsnd, htail⟩

theorem Delimits.injective {α : Type} {f : α → Text} (h : ∀ a, Delimits f a) : Function.Injective f :=
  fun a b heq => (h a b [] [] (congrArg (· ++ []) heq)).1

namespace Json

section Quoted

/-- The character that a letter or sign behind a backslash stands for. -/
def ofEscape? : Char → Option Char
  | '"' => some '"'
  | '\\' => some '\\'
  | 'n' => some '\n'
  | 'r' => some '\r'
  | 't' => some '\t'
  | 'b' => some '\x08'
  | 'f' => some '\x0c'
  | _ => none

/-- The first character inside a JSON string, and what follows it, unless the string ends here. -/
def readChar? : Text → Option (Char × Text)
  | [] => none
  | '"' :: _ => none
  | '\\' :: 'u' :: '0' :: '0' :: high :: low :: rest => (charOfHex? [high, low]).map (·, rest)
  | '\\' :: c :: rest => (ofEscape? c).map (·, rest)
  | c :: rest => some (c, rest)

theorem charOfHex?_hexDigits {c : Char} (h : c.toNat < 0x20) :
    charOfHex? [hexDigit (c.toNat / 16), hexDigit (c.toNat % 16)] = some c := by
  have hcodes : ∀ n < 0x20, charOfHex? [hexDigit (n / 16), hexDigit (n % 16)] = some (Char.ofNat n) := by decide
  rw [hcodes c.toNat h, Char.ofNat_toNat]

theorem readChar?_escaped (c : Char) (rest : Text) : readChar? (escaped c ++ rest) = some (c, rest) := by
  unfold escaped
  split
  case h_8 hquote hslash _ _ _ _ _ =>
    split
    next h =>
      have hchar : readChar? ('\\' :: 'u' :: '0' :: '0' :: hexDigit (c.toNat / 16) :: hexDigit (c.toNat % 16) :: rest) =
          (charOfHex? [hexDigit (c.toNat / 16), hexDigit (c.toNat % 16)]).map (·, rest) := rfl
      exact hchar.trans (by rw [charOfHex?_hexDigits h]; rfl)
    next =>
      rw [List.singleton_append, readChar?]
      · exact hquote
      · exact fun _ _ _ hc _ => hslash hc
      · exact fun _ _ hc _ => hslash hc
  all_goals rfl

theorem escaped_append_ne_quote (c : Char) (r s : Text) : escaped c ++ s ≠ '"' :: r := by
  intro h
  have hread := readChar?_escaped c s
  rw [h] at hread
  cases hread

theorem delimits_quoted (t : Text) : Delimits quoted t := by
  intro u r s h
  simp only [quoted, List.cons_append, List.append_assoc, List.cons.injEq, true_and, List.nil_append] at h
  induction t generalizing u with
  | nil =>
    cases u with
    | nil => exact ⟨rfl, (List.cons.inj h).2⟩
    | cons d u =>
      rw [List.flatMap_cons, List.append_assoc] at h
      exact absurd h.symm (escaped_append_ne_quote d r _)
  | cons c t ih =>
    rw [List.flatMap_cons, List.append_assoc] at h
    cases u with
    | nil => exact absurd h (escaped_append_ne_quote c s _)
    | cons d u =>
      rw [List.flatMap_cons, List.append_assoc] at h
      obtain ⟨rfl, hrest⟩ := Delimits.of_read readChar?_escaped c d _ _ h
      obtain ⟨rfl, htail⟩ := ih u hrest
      exact ⟨rfl, htail⟩

end Quoted

section Bracketed

variable {α : Type} {f : α → Text} {items items' : List α} {opening closing : Char} {depth : Nat} {r s : Text}

/-- Items one to a line can be told apart up to the line of the closing bracket. -/
theorem eq_of_itemLines_eq (h : ∀ item ∈ items, Delimits f item)
    (heq : items.flatMap (fun item => ',' :: newline depth ++ f item) ++ '\n' :: r =
      items'.flatMap (fun item => ',' :: newline depth ++ f item) ++ '\n' :: s) : items = items' ∧ r = s := by
  induction items generalizing items' with
  | nil =>
    cases items' with
    | nil => exact ⟨rfl, (List.cons.inj heq).2⟩
    | cons item' items' => exact absurd (List.cons.inj heq).1 (by decide)
  | cons item items ih =>
    cases items' with
    | nil => exact absurd (List.cons.inj heq).1 (by decide)
    | cons item' items' =>
      obtain ⟨hitem, hitems⟩ := List.forall_mem_cons.mp h
      simp only [List.flatMap_cons, List.append_assoc, List.cons_append, List.cons.injEq, true_and,
        List.append_cancel_left_eq] at heq
      obtain ⟨rfl, hrest⟩ := hitem _ _ _ heq
      obtain ⟨rfl, htail⟩ := ih hitems hrest
      exact ⟨rfl, htail⟩

theorem bracketed_cons_append (item : α) (items : List α) (r : Text) :
    bracketed opening closing depth ((item :: items).map f) ++ r =
      opening :: newline (depth + 1) ++ (f item ++
        (items.flatMap (fun item => ',' :: newline (depth + 1) ++ f item) ++
          '\n' :: (List.replicate (2 * depth) ' ' ++ closing :: r))) := by
  rw [List.map_cons, bracketed, Text.join_cons]
  · simp [newline, List.flatMap_map]
  · exact List.cons_ne_nil _ _

theorem delimits_bracketed (hclosing : closing ≠ '\n') (h : ∀ item ∈ items, Delimits f item) :
    Delimits (fun items : List α => bracketed opening closing depth (items.map f)) items := by
  intro items' r s heq
  cases items with
  | nil =>
    cases items' with
    | nil => exact ⟨rfl, (List.cons.inj (List.cons.inj heq).2).2⟩
    | cons item' items' =>
      rw [bracketed_cons_append] at heq
      exact absurd (List.cons.inj (List.cons.inj heq).2).1 hclosing
  | cons item items =>
    rw [bracketed_cons_append] at heq
    cases items' with
    | nil => exact absurd (List.cons.inj (List.cons.inj heq).2).1.symm hclosing
    | cons item' items' =>
      obtain ⟨hitem, hitems⟩ := List.forall_mem_cons.mp h
      rw [bracketed_cons_append] at heq
      obtain ⟨rfl, hrest⟩ := hitem _ _ _ (List.append_cancel_left heq)
      obtain ⟨rfl, htail⟩ := eq_of_itemLines_eq hitems hrest
      exact ⟨rfl, (List.cons.inj (List.append_cancel_left htail)).2⟩

end Bracketed

section Pretty

/-- Induction over a value, with the property for all that an array or an object holds. -/
theorem induct {motive : Json → Prop} (null : motive .null) (bool : ∀ value, motive (.bool value))
    (text : ∀ value, motive (.text value)) (array : ∀ items, (∀ item ∈ items, motive item) → motive (.array items))
    (object : ∀ fields, (∀ field ∈ fields, motive field.2) → motive (.object fields)) (v : Json) : motive v := by
  refine @Json.rec motive (fun items => ∀ item ∈ items, motive item) (fun fields => ∀ field ∈ fields, motive field.2)
    (fun field => motive field.2) null bool text array object ?_ ?_ ?_ ?_ ?_ v
  · exact fun _ h => absurd h List.not_mem_nil
  · exact fun _ _ hitem hitems => List.forall_mem_cons.mpr ⟨hitem, hitems⟩
  · exact fun _ h => absurd h List.not_mem_nil
  · exact fun _ _ hfield hfields => List.forall_mem_cons.mpr ⟨hfield, hfields⟩
  · exact fun _ _ hvalue => hvalue

theorem prettyItems_eq (depth : Nat) (items : List Json) : prettyItems depth items = items.map (pretty depth) := by
  induction items with
  | nil => rfl
  | cons item items ih => rw [prettyItems, ih, List.map_cons]

theorem prettyFields_eq (depth : Nat) (fields : List (Text × Json)) :
    prettyFields depth fields = fields.map fun field => quoted field.1 ++ ": " ++ field.2.pretty depth := by
  induction fields with
  | nil => rfl
  | cons field fields ih => rw [prettyFields, ih, List.map_cons]

/-- The first character of a written value, which tells its kind. -/
def mark : Json → Char
  | null => 'n'
  | bool value => if value then 't' else 'f'
  | text _ => '"'
  | array _ => '['
  | object _ => '{'

theorem exists_pretty_cons (depth : Nat) (v : Json) : ∃ rest, v.pretty depth = v.mark :: rest := by
  cases v with
  | null => exact ⟨_, rfl⟩
  | bool value => cases value <;> exact ⟨_, rfl⟩
  | text value => exact ⟨_, rfl⟩
  | array items => cases items <;> exact ⟨_, rfl⟩
  | object fields => cases fields <;> exact ⟨_, rfl⟩

/-- Values of one kind, which are the same if they are no texts and hold no values. -/
inductive SameKind : Json → Json → Prop
  | null : SameKind null null
  | bool (value : Bool) : SameKind (bool value) (bool value)
  | text (value value' : Text) : SameKind (text value) (text value')
  | array (items items' : List Json) : SameKind (array items) (array items')
  | object (fields fields' : List (Text × Json)) : SameKind (object fields) (object fields')

theorem sameKind_of_mark_eq {v w : Json} (h : v.mark = w.mark) : SameKind v w := by
  rcases v with _ | (_ | _) | _ | _ | _ <;> rcases w with _ | (_ | _) | _ | _ | _ <;> simp [mark] at h <;> constructor

theorem sameKind_of_pretty_eq {v w : Json} {depth : Nat} {r s : Text} (h : v.pretty depth ++ r = w.pretty depth ++ s) :
    SameKind v w := by
  obtain ⟨rest, hv⟩ := v.exists_pretty_cons depth
  obtain ⟨rest', hw⟩ := w.exists_pretty_cons depth
  rw [hv, hw] at h
  exact sameKind_of_mark_eq (List.cons.inj h).1

theorem delimits_pretty (v : Json) (depth : Nat) : Delimits (pretty depth) v := by
  induction v using induct generalizing depth with
  | null =>
    intro w r s h
    cases sameKind_of_pretty_eq h
    exact ⟨rfl, List.append_cancel_left h⟩
  | bool value =>
    intro w r s h
    cases sameKind_of_pretty_eq h
    exact ⟨rfl, List.append_cancel_left h⟩
  | text value =>
    intro w r s h
    cases sameKind_of_pretty_eq h with
    | text _ value' => exact (delimits_quoted value value' r s h).imp_left (congrArg text)
  | array items ih =>
    intro w r s h
    cases sameKind_of_pretty_eq h with
    | array _ items' =>
      rw [pretty, pretty, prettyItems_eq, prettyItems_eq] at h
      have hitems : ∀ item ∈ items, Delimits (pretty (depth + 1)) item := fun item hm => ih item hm (depth + 1)
      exact (delimits_bracketed (by decide) hitems items' r s h).imp_left (congrArg array)
  | object fields ih =>
    intro w r s h
    cases sameKind_of_pretty_eq h with
    | object _ fields' =>
      rw [pretty, pretty, prettyFields_eq, prettyFields_eq] at h
      have hfields : ∀ field ∈ fields,
          Delimits (fun field : Text × Json => quoted field.1 ++ ": " ++ field.2.pretty (depth + 1)) field :=
        fun field hm => (delimits_quoted field.1).pair (ih field hm (depth + 1)) ": "
      exact (delimits_bracketed (by decide) hfields fields' r s h).imp_left (congrArg object)

/-- A JSON value can be told from its text. -/
theorem pretty_injective (depth : Nat) : Function.Injective (pretty depth) :=
  Delimits.injective fun v => v.delimits_pretty depth

end Pretty

end Json

end SwiftConnections
