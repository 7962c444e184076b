import SwiftConnections.Config.Parameter
import SwiftConnections.Proofs.Except
import SwiftConnections.Proofs.Text.Occurrence
import Mathlib.Data.List.Induction

namespace SwiftConnections

namespace Config

/-- The pieces of a parameter between commas, without blanks around them and without the blank ones. -/
def pieces (parameter : Option Text) : List Text :=
  ((Text.split (parameter.getD []) ',').map Text.trim).filter (· ≠ [])

def keyOf (piece : Text) : Text :=
  Text.trim (piece.takeWhile (· ≠ '='))

/-- The value, in which more equals signs may stand. -/
def valueOf (piece : Text) : Text :=
  Text.trim (piece.dropWhile (· ≠ '=')).tail

def isMalformed (piece : Text) : Bool :=
  '=' ∉ piece || keyOf piece = []

def isFor (key piece : Text) : Bool :=
  !isMalformed piece && keyOf piece = key

/-- The value of the last entry for a key. -/
def given? (key : Text) (pieces : List Text) : Option Text :=
  (pieces.filter (isFor key)).getLast?.map valueOf

def boolean? (value : Text) : Option Bool :=
  if value = "true" then some true else if value = "false" then some false else none

/-- Why an entry by itself is refused, whatever the other entries are. -/
def refusal? (piece : Text) : Option ConfigError :=
  let value := valueOf piece
  if keyOf piece = "FileNaming" then
    if (FileNaming.ofName? value).isNone then
      some (.invalidValue "FileNaming" value (FileNaming.unknownMessage value))
    else none
  else if keyOf piece = "Helpers" then
    if (boolean? value).isNone then some (.invalidValue "Helpers" value "expected true or false") else none
  else if keyOf piece = "Component" ∨ keyOf piece = "LogLevel" ∨ keyOf piece = "ConfigFile" then none
  else some (.unknownOption (keyOf piece))

/-- The settings with the last value for each key in the place of those underneath. -/
def settled (base : Config) (pieces : List Text) : Config where
  naming := ((given? "FileNaming" pieces).bind FileNaming.ofName?).getD base.naming
  component := (given? "Component" pieces).getD base.component
  helpers := ((given? "Helpers" pieces).bind boolean?).getD base.helpers
  level := (given? "LogLevel" pieces).getD base.level

/-- What a parameter means: the first of its errors in this order, or else the settings. -/
def meaning (files : Files) (pieces : List Text) : Except ConfigError Config :=
  match pieces.find? isMalformed with
  | some piece => .error (.malformedEntry piece)
  | none =>
    match ((given? "ConfigFile" pieces).map (ofFile files)).getD (.ok {}) with
    | .error e => .error e
    | .ok base =>
      match pieces.findSome? refusal? with
      | some e => .error e
      | none => (settled base pieces).validate

theorem entry_eq (piece : Text) :
    entry piece = if isMalformed piece then .error (.malformedEntry piece) else .ok (keyOf piece, valueOf piece) := by
  have hcut := Text.cut?_singleton piece '='
  have hsign : (("=" : String) : Text) = ['='] := rfl
  rw [entry, hsign, hcut]
  by_cases h : '=' ∈ piece
  · rw [if_pos h]
    by_cases hkey : keyOf piece = []
    · have hblank : isMalformed piece = true := by simp [isMalformed, hkey]
      rw [if_pos hblank]
      exact if_pos hkey
    · have hwell : isMalformed piece = false := by simp [isMalformed, h, hkey]
      rw [hwell]
      exact if_neg hkey
  · have hsignless : isMalformed piece = true := by simp [isMalformed, h]
    rw [if_neg h, if_pos hsignless]

theorem given?_concat (key : Text) (pieces : List Text) (piece : Text) :
    given? key (pieces ++ [piece]) = if isFor key piece then some (valueOf piece) else given? key pieces := by
  rw [given?, given?, List.filter_append]
  split
  next h => simp [h]
  next h => simp [h]

theorem given?_concat_of_eq (pieces : List Text) {key piece : Text} (hp : isMalformed piece = false)
    (h : keyOf piece = key) : given? key (pieces ++ [piece]) = some (valueOf piece) := by
  have hfor : isFor key piece = true := by simp [isFor, hp, h]
  rw [given?_concat, if_pos hfor]

theorem given?_concat_of_ne (pieces : List Text) {key piece : Text} (h : keyOf piece ≠ key) :
    given? key (pieces ++ [piece]) = given? key pieces := by
  have hfor : isFor key piece = false := by simp [isFor, h]
  rw [given?_concat, hfor]
  rfl

theorem apply_helpers (config : Config) (value : Text) :
    apply config ("Helpers", value) =
      match boolean? value with
      | some helpers => .ok { config with helpers }
      | none => .error (.invalidValue "Helpers" value "expected true or false") := by
  rw [apply, if_neg (by decide), if_neg (by decide), if_pos rfl, boolean?]
  by_cases htrue : value = "true"
  · rw [if_pos htrue, if_pos htrue]
  rw [if_neg htrue, if_neg htrue]
  by_cases hfalse : value = "false"
  · rw [if_pos hfalse, if_pos hfalse]
  · rw [if_neg hfalse, if_neg hfalse]

/-- An entry applied to settled settings is refused, or it settles them together with the entries before. -/
theorem apply_settled (base : Config) (pieces : List Text) {piece : Text} (hp : isMalformed piece = false) :
    apply (settled base pieces) (keyOf piece, valueOf piece) =
      match refusal? piece with
      | some e => .error e
      | none => .ok (settled base (pieces ++ [piece])) := by
  have hlast {key : Text} (h : keyOf piece = key) : given? key (pieces ++ [piece]) = some (valueOf piece) :=
    given?_concat_of_eq pieces hp h
  have hkept {key : Text} (other : Text) (h : keyOf piece = key) (hne : key ≠ other) :
      given? other (pieces ++ [piece]) = given? other pieces :=
    given?_concat_of_ne pieces (h.trans_ne hne)
  -- A key has one place in the settings; the other places stay as the entries before have settled them.
  rw [settled.eq_def base (pieces ++ [piece]), refusal?]
  by_cases hnaming : keyOf piece = "FileNaming"
  · rw [if_pos hnaming, hlast hnaming, hkept "Component" hnaming (by decide),
      hkept "Helpers" hnaming (by decide), hkept "LogLevel" hnaming (by decide), hnaming, apply, if_pos rfl]
    cases hvalue : FileNaming.ofName? (valueOf piece) with
    | none => rfl
    | some naming => rw [if_neg (by simp), Option.bind_some, hvalue]; rfl
  rw [if_neg hnaming]
  by_cases hhelpers : keyOf piece = "Helpers"
  · rw [if_pos hhelpers, hlast hhelpers, hkept "FileNaming" hhelpers (by decide),
      hkept "Component" hhelpers (by decide), hkept "LogLevel" hhelpers (by decide), hhelpers, apply_helpers]
    cases hvalue : boolean? (valueOf piece) with
    | none => rfl
    | some helpers => rw [if_neg (by simp), Option.bind_some, hvalue]; rfl
  rw [if_neg hhelpers, apply, if_neg hnaming, if_neg hhelpers]
  by_cases hcomponent : keyOf piece = "Component"
  · rw [if_pos hcomponent, if_pos (.inl hcomponent), hlast hcomponent,
      hkept "FileNaming" hcomponent (by decide), hkept "Helpers" hcomponent (by decide),
      hkept "LogLevel" hcomponent (by decide)]
    rfl
  rw [if_neg hcomponent]
  by_cases hlevel : keyOf piece = "LogLevel"
  · rw [if_pos hlevel, if_pos (.inr (.inl hlevel)), hlast hlevel, hkept "FileNaming" hlevel (by decide),
      hkept "Component" hlevel (by decide), hkept "Helpers" hlevel (by decide)]
    rfl
  rw [if_neg hlevel]
  by_cases hfile : keyOf piece = "ConfigFile"
  · rw [if_pos hfile, if_pos (.inr (.inr hfile)), hkept "FileNaming" hfile (by decide),
      hkept "Component" hfile (by decide), hkept "Helpers" hfile (by decide), hkept "LogLevel" hfile (by decide)]
    rfl
  · rw [if_neg hfile, if_neg (not_or.mpr ⟨hcomponent, not_or.mpr ⟨hlevel, hfile⟩⟩)]

/-- The settings so far are those settled by the entries so far. -/
theorem foldlM_apply (base : Config) {pieces : List Text} (hp : ∀ piece ∈ pieces, isMalformed piece = false) :
    (pieces.map fun piece => (keyOf piece, valueOf piece)).foldlM apply base =
      match pieces.findSome? refusal? with
      | some e => .error e
      | none => .ok (settled base pieces) := by
  -- From the end, since a value counts only if no entry for its key follows.
  induction pieces using List.reverseRecOn with
  | nil => rfl
  | append_singleton pieces piece ih =>
    have hbefore := ih fun earlier h => hp earlier (List.mem_append_left _ h)
    have hstep := apply_settled base pieces (hp piece (List.mem_append_right _ List.mem_cons_self))
    rw [List.map_append, List.foldlM_append, hbefore, List.findSome?_append]
    cases pieces.findSome? refusal? with
    | some e => rfl
    | none =>
      rw [Option.none_or, List.findSome?_singleton, ← hstep]
      exact bind_pure (apply (settled base pieces) (keyOf piece, valueOf piece))

theorem fileOf?_eq {pieces : List Text} (hp : ∀ piece ∈ pieces, isMalformed piece = false) :
    fileOf? (pieces.map fun piece => (keyOf piece, valueOf piece)) = given? "ConfigFile" pieces := by
  induction pieces using List.reverseRecOn with
  | nil => rfl
  | append_singleton pieces piece ih =>
    have hbefore := ih fun earlier h => hp earlier (List.mem_append_left _ h)
    have hpiece := hp piece (List.mem_append_right _ List.mem_cons_self)
    rw [fileOf?] at hbefore ⊢
    rw [List.map_append, List.reverse_append, List.map_singleton, List.reverse_singleton, List.singleton_append]
    by_cases hkey : keyOf piece = "ConfigFile"
    · rw [given?_concat_of_eq pieces hpiece hkey, hkey, List.lookup_cons_self]
    · rw [given?_concat_of_ne pieces hkey, ← hbefore, List.lookup_cons, beq_false_of_ne (Ne.symm hkey)]

theorem ofParameter_of_entries {files : Files} {parameter : Option Text} {read : List (Text × Text)}
    (h : entries (parameter.getD []) = .ok read) :
    ofParameter files parameter =
      ((fileOf? read).map (ofFile files)).getD (.ok {}) >>= fun base => read.foldlM apply base >>= validate := by
  simp only [ofParameter, h, bind, Except.bind]
  cases fileOf? read <;> rfl

theorem ofParameter_eq_meaning (files : Files) (parameter : Option Text) :
    ofParameter files parameter = meaning files (pieces parameter) := by
  have hentries : entries (parameter.getD []) = _ := mapM_of_test entry_eq (pieces parameter)
  rw [meaning]
  cases hfirst : (pieces parameter).find? isMalformed with
  | some piece =>
    rw [hfirst] at hentries
    rw [ofParameter, hentries]
    rfl
  | none =>
    have hp : ∀ piece ∈ pieces parameter, isMalformed piece = false := by simpa using hfirst
    rw [hfirst] at hentries
    rw [ofParameter_of_entries hentries, fileOf?_eq hp]
    cases ((given? "ConfigFile" (pieces parameter)).map (ofFile files)).getD (.ok {}) with
    | error e => rfl
    | ok base =>
      refine (congrArg (· >>= validate) (foldlM_apply base hp)).trans ?_
      cases (pieces parameter).findSome? refusal? <;> rfl

/-- The only file that a parameter has read. -/
def consulted? (pieces : List Text) : Option Text :=
  match pieces.find? isMalformed with
  | some _ => none
  | none => given? "ConfigFile" pieces

/-- Pieces that differ only in the places of the entries for a key among the other pieces. -/
structure Moved (key : Text) (before after : List Text) : Prop where
  entries : before.filter (isFor key) = after.filter (isFor key)
  others : before.filter (!isFor key ·) = after.filter (!isFor key ·)

theorem ofFile_congr {files files' : Files} {path : Text} (h : files path = files' path) :
    ofFile files path = ofFile files' path := by
  rw [ofFile, ofFile, h]

theorem meaning_of_consulted {files files' : Files} {pieces : List Text}
    (h : ∀ path ∈ consulted? pieces, files path = files' path) : meaning files pieces = meaning files' pieces := by
  rw [meaning, meaning]
  rw [consulted?] at h
  cases hfirst : pieces.find? isMalformed with
  | some piece => rfl
  | none =>
    rw [hfirst] at h
    have hfile : (given? "ConfigFile" pieces).map (ofFile files) = (given? "ConfigFile" pieces).map (ofFile files') :=
      Option.map_congr fun path hpath => ofFile_congr (h path hpath)
    rw [hfile]

theorem isMalformed_of_isFor {key piece : Text} (h : isFor key piece = true) : isMalformed piece = false := by
  simp_all [isFor]

theorem keyOf_of_isFor {key piece : Text} (h : isFor key piece = true) : keyOf piece = key := by
  simp_all [isFor]

theorem refusal?_of_isFor {piece : Text} (h : isFor "ConfigFile" piece = true) : refusal? piece = none := by
  have hkey := keyOf_of_isFor h
  rw [refusal?, if_neg (hkey.trans_ne (by decide)), if_neg (hkey.trans_ne (by decide)),
    if_pos (.inr (.inr hkey))]

/-- A search that finds no entry for the key goes by the other pieces. -/
theorem Moved.findSome? {α : Type} {key : Text} {before after : List Text} (h : Moved key before after)
    {find? : Text → Option α} (hnone : ∀ piece, isFor key piece = true → find? piece = none) :
    before.findSome? find? = after.findSome? find? := by
  have hothers : ∀ pieces : List Text,
      pieces.findSome? find? = ((pieces.filter (!isFor key ·)).filterMap find?).head? := fun pieces => by
    have hskip : (fun piece => if (!isFor key piece) = true then find? piece else none) = find? := by
      funext piece
      cases hfor : isFor key piece with
      | true => exact (hnone piece hfor).symm
      | false => rfl
    rw [List.filterMap_filter, hskip, List.head?_filterMap]
  rw [hothers, hothers, h.others]

theorem Moved.find?_isMalformed {key : Text} {before after : List Text} (h : Moved key before after) :
    before.find? isMalformed = after.find? isMalformed := by
  rw [← List.findSome?_guard, ← List.findSome?_guard]
  refine h.findSome? fun piece hfor => ?_
  simp [Option.guard, isMalformed_of_isFor hfor]

theorem Moved.given? {key : Text} {before after : List Text} (h : Moved key before after) (other : Text) :
    given? other before = given? other after := by
  by_cases hkey : other = key
  · rw [Config.given?, Config.given?, hkey, h.entries]
  · have hothers : ∀ pieces : List Text,
        pieces.filter (isFor other) = (pieces.filter (!isFor key ·)).filter (isFor other) := fun pieces => by
      have hskip : (fun piece => isFor other piece && !isFor key piece) = isFor other := by
        funext piece
        cases hfor : isFor other piece with
        | false => rfl
        | true => simp [isFor, keyOf_of_isFor hfor, hkey]
      rw [List.filter_filter, hskip]
    rw [Config.given?, Config.given?, hothers before, hothers after, h.others]

theorem meaning_of_moved (files : Files) {before after : List Text} (h : Moved "ConfigFile" before after) :
    meaning files before = meaning files after := by
  have hrefusal : before.findSome? refusal? = after.findSome? refusal? :=
    h.findSome? fun piece => refusal?_of_isFor
  have hsettled : ∀ base, settled base before = settled base after := fun base => by
    simp only [settled, h.given?]
  simp only [meaning, h.find?_isMalformed, h.given? "ConfigFile", hrefusal, hsettled]

theorem eq_of_validate {config config' : Config} (h : config.validate = .ok config') : config = config' := by
  rw [validate] at h
  split at h
  next => exact Except.ok.inj h
  next => cases h

theorem validate_of_validate {config config' : Config} (h : config.validate = .ok config') :
    config'.validate = .ok config' := by
  have hsame := eq_of_validate h
  rw [← hsame] at h ⊢
  exact h

theorem validate_of_meaning {files : Files} {pieces : List Text} {config : Config}
    (h : meaning files pieces = .ok config) : config.validate = .ok config := by
  rw [meaning] at h
  split at h
  next => cases h
  split at h
  next => cases h
  split at h
  next => cases h
  next => exact validate_of_validate h

/-- The parameter means what `meaning` says of its pieces. It depends on no file but the last one that is named, the entries
that name files may stand anywhere among the others, and the settings that it gives are valid. -/
theorem ofParameter_settles (files : Files) (parameter : Option Text) :
    ofParameter files parameter = meaning files (pieces parameter) ∧
      (∀ files' : Files, (∀ path ∈ consulted? (pieces parameter), files path = files' path) →
        ofParameter files parameter = ofParameter files' parameter) ∧
      (∀ parameter', Moved "ConfigFile" (pieces parameter) (pieces parameter') →
        ofParameter files parameter = ofParameter files parameter') ∧
      ∀ config, ofParameter files parameter = .ok config → config.validate = .ok config := by
  refine ⟨ofParameter_eq_meaning files parameter, fun files' h => ?_, fun parameter' h => ?_, fun config h => ?_⟩
  · rw [ofParameter_eq_meaning, ofParameter_eq_meaning, meaning_of_consulted h]
  · rw [ofParameter_eq_meaning, ofParameter_eq_meaning, meaning_of_moved files h]
  · rw [ofParameter_eq_meaning] at h
    exact validate_of_meaning h

theorem ofParameter_settles_two_files :
    let files : Files := fun path => if path = "new" then some [] else none
    let parameter : Option Text := some "ConfigFile=old,Helpers=true, ConfigFile = new ,,Helpers=false"
    let moved : Option Text := some "Helpers=true,ConfigFile=old,Helpers=false,ConfigFile = new"
    consulted? (pieces parameter) = some "new" ∧ ofParameter files parameter = .ok {} ∧
      ofParameter (fun _ => some []) parameter = .ok {} ∧ ofParameter files moved = .ok {} ∧
      ({} : Config).validate = .ok {} := by
  intro files parameter moved
  have hpieces : pieces parameter =
      [("ConfigFile=old" : Text), ("Helpers=true" : Text), ("ConfigFile = new" : Text), ("Helpers=false" : Text)] := by
    decide +kernel
  have hpieces' : pieces moved =
      [("Helpers=true" : Text), ("ConfigFile=old" : Text), ("Helpers=false" : Text), ("ConfigFile = new" : Text)] := by
    decide +kernel
  have hconsulted : consulted? (pieces parameter) = some "new" := by rw [hpieces]; decide +kernel
  have hconfig : meaning files (pieces parameter) = .ok {} := by rw [hpieces]; decide +kernel
  obtain ⟨hmeaning, hfiles, hmoved, hvalid⟩ := ofParameter_settles files parameter
  have hok := hmeaning.trans hconfig
  have hread : ∀ path ∈ consulted? (pieces parameter), files path = some [] := by
    rw [hconsulted]
    rintro path ⟨⟩
    decide
  have hplaces : Moved "ConfigFile" (pieces parameter) (pieces moved) := by
    rw [hpieces, hpieces']
    exact ⟨by decide +kernel, by decide +kernel⟩
  exact ⟨hconsulted, hok, (hfiles _ hread).symm.trans hok, (hmoved moved hplaces).symm.trans hok, hvalid {} hok⟩

end Config

end SwiftConnections
