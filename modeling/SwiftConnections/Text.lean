namespace SwiftConnections

/-- A text is the list of its Unicode scalar values. -/
abbrev Text := List Char

instance : Coe String Text := ⟨String.toList⟩

namespace Text

/-- The property White_Space. -/
def isBlank (c : Char) : Bool :=
  let code := c.toNat
  (9 ≤ code && code ≤ 13) || code == 0x20 || code == 0x85 || code == 0xa0 || code == 0x1680 ||
    (0x2000 ≤ code && code ≤ 0x200a) || code == 0x2028 || code == 0x2029 || code == 0x202f ||
    code == 0x205f || code == 0x3000

/-- Without the characters of a kind at the end. -/
def dropEndWhile (t : Text) (p : Char → Bool) : Text :=
  (t.reverse.dropWhile p).reverse

/-- Without the characters of a kind at both ends. -/
def dropBothWhile (t : Text) (p : Char → Bool) : Text :=
  dropEndWhile (t.dropWhile p) p

/-- Without blanks at the end. -/
def trimEnd (t : Text) : Text :=
  t.dropEndWhile isBlank

/-- Without blanks at both ends. -/
def trim (t : Text) : Text :=
  t.dropBothWhile isBlank

/-- The lines of a text. A line feed ends a line, together with a carriage return directly before it. -/
def lines : Text → List Text
  | [] => []
  | '\n' :: rest => [] :: lines rest
  | '\r' :: '\n' :: rest => [] :: lines rest
  | c :: rest =>
    match lines rest with
    | [] => [[c]]
    | line :: more => (c :: line) :: more

/-- The pieces of a text between the occurrences of a separator: one more than there are separators. -/
def split (t : Text) (sep : Char) : List Text :=
  match t with
  | [] => [[]]
  | c :: rest => if c = sep then [] :: split rest sep else (split rest sep).modifyHead (c :: ·)

/-- What stands before and after the first occurrence of a pattern. -/
def cut? (t pattern : Text) : Option (Text × Text) :=
  match t with
  | [] => if pattern = [] then some ([], []) else none
  | c :: rest =>
    if pattern.isPrefixOf (c :: rest) then some ([], (c :: rest).drop pattern.length)
    else (cut? rest pattern).map fun found => (c :: found.1, found.2)

/-- The pattern occurs in the text. -/
def contains (t pattern : Text) : Bool :=
  (t.cut? pattern).isSome

/-- What follows a given character at the start of a text. -/
def after? (c : Char) (t : Text) : Option Text :=
  if t.head? = some c then some t.tail else none

/-- The text without a sign at its start, and whether the sign was a minus. -/
def cutSign : Text → Bool × Text
  | '+' :: rest => (false, rest)
  | '-' :: rest => (true, rest)
  | t => (false, t)

/-- The texts one after the other with a separator between them. -/
def join (sep : Text) (texts : List Text) : Text :=
  sep.intercalate texts

/-- The texts as lines, each with a line feed at its end. -/
def unlines (texts : List Text) : Text :=
  texts.flatMap (· ++ ['\n'])

/-- A number in decimal digits. -/
def ofNat (n : Nat) : Text :=
  Nat.toDigits 10 n

/-- The number that decimal digits denote, if the text holds at least one digit and nothing else. -/
def toNat? (t : Text) : Option Nat :=
  if t ≠ [] && t.all Char.isDigit then some (t.foldl (fun n c => 10 * n + (c.toNat - 48)) 0) else none

/-- The text in UTF-8. -/
def utf8 (t : Text) : List UInt8 :=
  t.flatMap String.utf8EncodeChar

/-- The text that UTF-8 bytes stand for, if they are well formed. -/
def ofUtf8? (bytes : List UInt8) : Option Text :=
  bytes.toByteArray.utf8Decode?.map Array.toList

/-- The first text comes before the second one in the order of code points. -/
def precedes : (t u : Text) → Bool
  | _, [] => false
  | [], _ :: _ => true
  | c :: t, d :: u => c.toNat < d.toNat || (c = d && precedes t u)

theorem precedes_trans {t u v : Text} (h : precedes t u) (h' : precedes u v) : precedes t v := by
  induction t generalizing u v with
  | nil => cases u <;> cases v <;> simp_all [precedes]
  | cons c t ih =>
    cases u with
    | nil => simp [precedes] at h
    | cons d u =>
      cases v with
      | nil => simp [precedes] at h'
      | cons e v =>
        simp only [precedes, Bool.or_eq_true, Bool.and_eq_true, decide_eq_true_eq] at h h' ⊢
        rcases h with h | ⟨rfl, h⟩
        · rcases h' with h' | ⟨rfl, -⟩
          · exact .inl (Nat.lt_trans h h')
          · exact .inl h
        · exact h'.imp_right fun h' => ⟨h'.1, ih h h'.2⟩

theorem precedes_of_not_precedes {t u : Text} (h : ¬ precedes t u) (hne : t ≠ u) : precedes u t := by
  induction t generalizing u with
  | nil => cases u <;> simp_all [precedes]
  | cons c t ih =>
    cases u with
    | nil => rfl
    | cons d u =>
      simp only [precedes, Bool.or_eq_true, Bool.and_eq_true, decide_eq_true_eq, not_or, not_and,
        Nat.not_lt] at h ⊢
      by_cases hc : d = c
      · exact .inr ⟨hc, ih (h.2 hc.symm) fun ht => hne (by rw [hc, ht])⟩
      · exact .inl (Nat.lt_of_le_of_ne h.1 fun he => hc (Char.toNat_inj.mp he))

/-- The number of bytes of the text in UTF-8. -/
def utf8Size : Text → Nat
  | [] => 0
  | c :: t => c.utf8Size + utf8Size t

end Text

end SwiftConnections
