import SwiftConnections.Proofs.Http.OptionLines
import SwiftConnections.Proofs.Proto.RuleFields
import SwiftConnections.Proofs.Text.Decimal

namespace SwiftConnections

/-- The text that stands before a closing quote. -/
def unescaped? : Text → Option Text
  | [] => none
  | '\\' :: 'n' :: rest => (unescaped? rest).map ('\n' :: ·)
  | '\\' :: c :: rest => (unescaped? rest).map (c :: ·)
  | ['"'] => some []
  | c :: rest => if c = '"' then none else (unescaped? rest).map (c :: ·)

/-- The text between quotes. -/
def unquoted? : Text → Option Text
  | '"' :: rest => unescaped? rest
  | _ => none

theorem not_isUnescaped_iff {c : Char} : ¬ isUnescaped c ↔ c = '"' ∨ c = '\\' ∨ c = '\n' := by
  simp only [isUnescaped, ne_eq, Bool.and_eq_true, decide_eq_true_eq]
  grind

theorem unescaped?_escaped (t : Text) : unescaped? (t.flatMap quotedChar ++ ['"']) = some t := by
  induction t with
  | nil => rfl
  | cons c t ih =>
    rw [List.flatMap_cons, List.append_assoc]
    by_cases hc : isUnescaped c
    · rw [quotedChar_of_isUnescaped hc, List.singleton_append]
      simp only [isUnescaped, ne_eq, Bool.and_eq_true, decide_eq_true_eq] at hc
      rw [unescaped?, if_neg hc.1.1, ih, Option.map_some] <;> simp_all
    · rcases not_isUnescaped_iff.mp hc with rfl | rfl | rfl
      · exact congrArg (Option.map _) ih
      · exact congrArg (Option.map _) ih
      · exact congrArg (Option.map _) ih

theorem unquoted?_quoted (t : Text) : unquoted? (quoted t) = some t :=
  unescaped?_escaped t

/-- A line of the text of options. -/
inductive OptionLine
  | value (number : Nat) (t : Text)
  | opening (number : Nat)
  | closing

namespace OptionLine

/-- The line that a text is, whatever its depth. -/
def ofText? (t : Text) : Option OptionLine :=
  let t := t.dropWhile (· = ' ')
  if t = ['}'] then some .closing
  else
    match Text.toNat? (t.takeWhile Char.isDigit), t.dropWhile Char.isDigit with
    | some number, [' ', '{'] => some (.opening number)
    | some number, ':' :: ' ' :: rest => (unquoted? rest).map (.value number)
    | _, _ => none

/-- The fields of the groups around a place in the text, the innermost group first, after the line before that
place. The text is read from its last line to its first, so a group begins with the line that closes it. -/
def read? (line : OptionLine) (groups : List (List Field)) : Option (List (List Field)) :=
  match line, groups with
  | .value number t, group :: outer => some ((.text number t :: group) :: outer)
  | .opening number, inner :: group :: outer => some ((.message number inner :: group) :: outer)
  | .closing, groups => some ([] :: groups)
  | _, _ => none

theorem dropWhile_lineAt {depth : Nat} {c : Char} {t : Text} (hc : c ≠ ' ') :
    (lineAt depth (c :: t)).dropWhile (· = ' ') = c :: t := by
  rw [lineAt, List.dropWhile_append_of_pos, List.dropWhile_cons_of_neg (by simp [hc])]
  intro d hd
  simp [List.eq_of_mem_replicate hd]

theorem ofText?_closing (depth : Nat) : ofText? (lineAt depth "\x7d") = some .closing := by
  have hline : (lineAt depth "\x7d").dropWhile (· = ' ') = ['}'] := dropWhile_lineAt (by decide)
  rw [ofText?, hline]
  rfl

theorem dropWhile_numbered {depth number : Nat} {c : Char} {rest : Text} :
    (lineAt depth (Text.ofNat number ++ c :: rest)).dropWhile (· = ' ') = Text.ofNat number ++ c :: rest := by
  cases h : Text.ofNat number with
  | nil => exact absurd h Nat.toDigits_ne_nil
  | cons d digits =>
    have hd : d.isDigit = true := Text.isDigit_of_mem_ofNat (n := number) (by simp [h])
    refine dropWhile_lineAt ?_
    rintro rfl
    simp at hd

theorem numbered_ne_closing {number : Nat} {c : Char} {rest : Text} : Text.ofNat number ++ c :: rest ≠ ['}'] := by
  intro h
  have hne : Text.ofNat number ≠ [] := Nat.toDigits_ne_nil
  have hlength := congrArg List.length h
  have hpos := List.length_pos_iff.mpr hne
  simp at hlength
  omega

theorem ofText?_opening (depth number : Nat) :
    ofText? (lineAt depth (Text.ofNat number ++ " \x7b")) = some (.opening number) := by
  have hline : Text.ofNat number ++ (" \x7b" : Text) = Text.ofNat number ++ ' ' :: ['{'] := rfl
  rw [hline, ofText?, dropWhile_numbered, if_neg numbered_ne_closing, Text.takeWhile_isDigit_ofNat (by decide),
    Text.dropWhile_isDigit_ofNat (by decide), Text.toNat?_ofNat]
  rfl

theorem ofText?_fieldLine (depth number : Nat) (t : Text) :
    ofText? (fieldLine depth number t) = some (.value number t) := by
  have hline : fieldLine depth number t = lineAt depth (Text.ofNat number ++ ':' :: (' ' :: quoted t)) := by
    simp [fieldLine]
  rw [hline, ofText?, dropWhile_numbered, if_neg numbered_ne_closing, Text.takeWhile_isDigit_ofNat (by decide),
    Text.dropWhile_isDigit_ofNat (by decide), Text.toNat?_ofNat]
  simp only [unquoted?_quoted, Option.map_some]

end OptionLine

/-- The groups before some lines, given those after them. -/
def readLines? (lines : List Text) (groups : List (List Field)) : Option (List (List Field)) :=
  lines.foldrM (fun t groups => (OptionLine.ofText? t).bind (·.read? groups)) groups

theorem readLines?_append (lines lines' : List Text) (groups : List (List Field)) :
    readLines? (lines ++ lines') groups = (readLines? lines' groups).bind (readLines? lines) := by
  rw [readLines?, List.foldrM_append]
  rfl

theorem readLines?_singleton {t : Text} {line : OptionLine} (h : OptionLine.ofText? t = some line)
    (groups : List (List Field)) : readLines? [t] groups = line.read? groups := by
  simp [readLines?, h]

/-- The fields that lines hold, if they form whole groups. -/
def fieldsOfLines? (lines : List Text) : Option (List Field) :=
  match readLines? lines [[]] with
  | some [fields] => some fields
  | _ => none

/-- The lines are read as these fields wherever they stand. -/
def ReadAs (lines : List Text) (fields : List Field) : Prop :=
  ∀ group outer, readLines? lines (group :: outer) = some ((fields ++ group) :: outer)

namespace ReadAs

variable {lines lines' : List Text} {fields fields' : List Field}

theorem nil : ReadAs [] [] :=
  fun _ _ => rfl

theorem append (h : ReadAs lines fields) (h' : ReadAs lines' fields') :
    ReadAs (lines ++ lines') (fields ++ fields') := by
  intro group outer
  rw [readLines?_append, h' group outer, Option.bind_some, h (fields' ++ group) outer, List.append_assoc]

theorem fieldLine (depth number : Nat) (t : Text) : ReadAs [fieldLine depth number t] [.text number t] := by
  intro group outer
  exact readLines?_singleton (OptionLine.ofText?_fieldLine depth number t) (group :: outer)

theorem optionalFieldLine (depth number : Nat) (t : Text) :
    ReadAs (optionalFieldLine depth number t) (Field.ofNonempty number t) := by
  unfold SwiftConnections.optionalFieldLine Field.ofNonempty
  split
  · exact nil
  · exact fieldLine depth number t

theorem groupLines (depth number : Nat) (h : ReadAs lines fields) :
    ReadAs (groupLines depth number lines) [.message number fields] := by
  intro group outer
  have hclosing : readLines? [lineAt depth "\x7d"] (group :: outer) = some ([] :: group :: outer) :=
    readLines?_singleton (OptionLine.ofText?_closing depth) (group :: outer)
  have hinner : readLines? lines ([] :: group :: outer) = some (fields :: group :: outer) := by
    rw [h [] (group :: outer), List.append_nil]
  rw [SwiftConnections.groupLines, readLines?_append, hclosing, Option.bind_some, readLines?_append, hinner,
    Option.bind_some]
  exact readLines?_singleton (OptionLine.ofText?_opening depth number) (fields :: group :: outer)

end ReadAs

theorem HttpPattern.readAs (depth : Nat) (pattern : HttpPattern) :
    ReadAs (pattern.textLines depth) [pattern.field] := by
  cases pattern with
  | custom kind path =>
    exact .groupLines depth 8 (.append (.optionalFieldLine (depth + 1) 1 kind) (.optionalFieldLine (depth + 1) 2 path))
  | _ => exact .fieldLine depth _ _

theorem HttpRule.readAs_additional {rules : List HttpRule} {depth : Nat}
    (h : ∀ rule ∈ rules, ReadAs (rule.textLines (depth + 1)) rule.fields) :
    ReadAs (additionalLines depth rules) (additionalFields rules) := by
  induction rules with
  | nil => exact .nil
  | cons rule rules ih =>
    have hfirst : ReadAs (groupLines depth 11 (rule.textLines (depth + 1))) [.message 11 rule.fields] :=
      .groupLines depth 11 (h rule List.mem_cons_self)
    exact hfirst.append (ih fun r hr => h r (List.mem_cons_of_mem rule hr))

/-- The lines of a rule hold the fields that it has on the wire. -/
theorem HttpRule.readAs (rule : HttpRule) (depth : Nat) : ReadAs (rule.textLines depth) rule.fields := by
  induction rule using HttpRule.induct generalizing depth with
  | step rule ih =>
    have hpattern : ReadAs ((rule.pattern.map (·.textLines depth)).getD []) (rule.pattern.map (·.field)).toList := by
      cases rule.pattern with
      | none => exact .nil
      | some pattern => exact pattern.readAs depth
    have hinner : ReadAs (additionalLines depth rule.additional) (additionalFields rule.additional) :=
      readAs_additional fun inner hm => ih inner hm (depth + 1)
    have hselector := ReadAs.optionalFieldLine depth 1 rule.selector
    have hbody := ReadAs.optionalFieldLine depth 7 rule.body
    have hresponse := ReadAs.optionalFieldLine depth 12 rule.responseBody
    have h := (((hselector.append hpattern).append hbody).append hinner).append hresponse
    rw [fields_eq]
    obtain ⟨selector, pattern, body, additional, responseBody⟩ := rule
    rw [textLines]
    exact h

namespace MethodOptions

/-- The options that lines give, after the line of the flag. -/
def httpOfLines? (lines : List Text) : Option (Option HttpRule) :=
  match fieldsOfLines? lines with
  | some [] => some none
  | some [.message number fields] => if number = httpRuleNumber then some (HttpRule.ofFields fields) else none
  | _ => none

/-- The options whose text this is. -/
def ofText? (t : Text) : Option MethodOptions :=
  if t.lines.head? = some ("deprecated: true" : Text) then (httpOfLines? t.lines.tail).map (⟨true, ·⟩)
  else (httpOfLines? t.lines).map (⟨false, ·⟩)

theorem httpOfLines?_textLines (http : Option HttpRule) :
    httpOfLines? ((http.map fun rule => groupLines 0 httpRuleNumber (rule.textLines 1)).getD []) = some http := by
  cases http with
  | none => rfl
  | some rule =>
    have hread : readLines? (groupLines 0 httpRuleNumber (rule.textLines 1)) [[]] =
        some [[.message httpRuleNumber rule.fields]] := ReadAs.groupLines 0 httpRuleNumber (rule.readAs 1) [] []
    rw [Option.map_some, Option.getD_some, httpOfLines?, fieldsOfLines?, hread]
    simp [HttpRule.ofFields_fields]

theorem head?_httpLines (http : Option HttpRule) :
    ((http.map fun rule => groupLines 0 httpRuleNumber (rule.textLines 1)).getD []).head? ≠
      some ("deprecated: true" : Text) := by
  cases http with
  | none => simp
  | some rule =>
    have hopening : lineAt 0 (Text.ofNat httpRuleNumber ++ " \x7b") ≠ ("deprecated: true" : Text) := by decide
    exact fun h => hopening (Option.some.inj h)

theorem ofText?_text (options : MethodOptions) : ofText? options.text = some options := by
  have hlines : options.text.lines = options.textLines := options.shows.lines_unlines
  obtain ⟨deprecated, http⟩ := options
  have hhttp := httpOfLines?_textLines http
  rw [ofText?, hlines, textLines]
  cases deprecated with
  | true => simp [hhttp]
  | false => simp only [Bool.false_eq_true, if_false, List.nil_append, if_neg (head?_httpLines http), hhttp,
      Option.map_some]

/-- The text of options determines them: flag, rule, strings and the nesting of bindings can be read off it. -/
theorem text_determines (options other : MethodOptions) :
    ofText? options.text = some options ∧ (options.text = other.text ↔ options = other) := by
  refine ⟨options.ofText?_text, fun h => ?_, congrArg text⟩
  have hread := options.ofText?_text
  rw [h, other.ofText?_text] at hread
  exact (Option.some.inj hread).symm

end MethodOptions

end SwiftConnections
