import SwiftConnections.Config.Save
import SwiftConnections.Proofs.Config.ParameterMeaning
import SwiftConnections.Proofs.Identifiers
import SwiftConnections.Proofs.Text.Pieces
import SwiftConnections.Proofs.Text.Trimming

namespace SwiftConnections

namespace Config

/-- An entry of a parameter. -/
def entryText (entry : Text × Text) : Text :=
  entry.1 ++ '=' :: entry.2

/-- An entry for every setting. -/
def allEntries (config : Config) : List (Text × Text) :=
  [("FileNaming", config.naming.name), ("Component", config.component),
    ("Helpers", booleanText config.helpers), ("LogLevel", config.level)]

/-- The settings as the parameter of the plugin. -/
def parameterText (config : Config) : Text :=
  Text.join [','] (config.allEntries.map entryText)

/-- A text that can be the key of an entry: no comma, equals sign or blank is in it. -/
structure IsKey (key : Text) : Prop where
  ne_nil : key ≠ []
  not_comma : ',' ∉ key
  not_sign : '=' ∉ key
  unblank : ∀ c ∈ key, Text.isBlank c = false

/-- An entry that is read back from a parameter as it is. -/
structure IsEntry (entry : Text × Text) : Prop where
  key : IsKey entry.1
  trimmed : entry.2.trim = entry.2
  not_comma : ',' ∉ entry.2

theorem lt_of_isComponentChar {c : Char} (h : isComponentChar c = true) : c.toNat < 128 := by
  rcases Bool.or_eq_true_iff.mp h with halphanum | hunderscore
  · exact lt_of_isAlphanum halphanum
  · rw [of_decide_eq_true hunderscore]
    decide

theorem unblank_of_isComponentChar {c : Char} (h : isComponentChar c = true) : Text.isBlank c = false ∧ c ≠ ',' := by
  have hc := lt_of_isComponentChar h
  revert h
  exact ascii_induction (P := fun c => isComponentChar c = true → Text.isBlank c = false ∧ c ≠ ',') (by decide) hc

def settingKeys : List Text :=
  ["FileNaming", "Component", "Helpers", "LogLevel"]

theorem isKey_of_mem_settingKeys {key : Text} (h : key ∈ settingKeys) : IsKey key := by
  have hkeys : ∀ key ∈ settingKeys, key ≠ [] ∧ key.all isComponentChar = true := by decide
  obtain ⟨hne, hall⟩ := hkeys key h
  have hchars : ∀ c ∈ key, isComponentChar c = true := List.all_eq_true.mp hall
  exact ⟨hne, fun hm => absurd (hchars _ hm) (by decide), fun hm => absurd (hchars _ hm) (by decide),
    fun c hc => (unblank_of_isComponentChar (hchars c hc)).1⟩

section Entry

variable {key value : Text}

theorem keyOf_entryText (h : IsKey key) : keyOf (entryText (key, value)) = key := by
  have hkey : ∀ c ∈ key, decide (c ≠ '=') = true := fun c hc => decide_eq_true fun heq => h.not_sign (heq ▸ hc)
  have hstart : (entryText (key, value)).takeWhile (· ≠ '=') = key := by
    rw [entryText, List.takeWhile_append_of_pos hkey]
    simp
  rw [keyOf, hstart, Text.trim_of_unblank h.unblank]

theorem valueOf_entryText (h : IsKey key) : valueOf (entryText (key, value)) = value.trim := by
  have hkey : ∀ c ∈ key, decide (c ≠ '=') = true := fun c hc => decide_eq_true fun heq => h.not_sign (heq ▸ hc)
  have hrest : (entryText (key, value)).dropWhile (· ≠ '=') = '=' :: value := by
    rw [entryText, List.dropWhile_append_of_pos hkey]
    simp
  rw [valueOf, hrest, List.tail_cons]

theorem isMalformed_entryText (h : IsKey key) : isMalformed (entryText (key, value)) = false := by
  rw [isMalformed, keyOf_entryText h]
  simp [entryText, h.ne_nil]

/-- Only blanks at the end of the value stand at an end of the entry. -/
theorem trim_entryText (h : IsKey key) : (entryText (key, value)).trim = entryText (key, value.trimEnd) := by
  obtain ⟨c, rest, rfl⟩ := List.exists_cons_of_ne_nil h.ne_nil
  have hc : Text.isBlank c = false := h.unblank c List.mem_cons_self
  have hstart : (entryText (c :: rest, value)).dropWhile Text.isBlank = entryText (c :: rest, value) :=
    List.dropWhile_cons_of_neg (Bool.eq_false_iff.mp hc)
  rw [Text.trim, Text.dropBothWhile, hstart]
  exact Text.trimEnd_append_cons (by decide) (c :: rest) value

theorem entryText_ne_nil (entry : Text × Text) : entryText entry ≠ [] :=
  List.append_ne_nil_of_right_ne_nil _ (List.cons_ne_nil _ _)

end Entry

section Entries

variable {listed : List (Text × Text)}

theorem split_join_entries (hne : listed ≠ []) (h : ∀ e ∈ listed, IsEntry e) :
    Text.split (Text.join [','] (listed.map entryText)) ',' = listed.map entryText := by
  refine Text.split_join (fun piece hp => ?_) (by simpa using hne)
  obtain ⟨e, he, rfl⟩ := List.mem_map.mp hp
  simp [entryText, (h e he).key.not_comma, (h e he).not_comma]

theorem pieces_join_entries (hne : listed ≠ []) (h : ∀ e ∈ listed, IsEntry e) :
    pieces (some (Text.join [','] (listed.map entryText))) = listed.map entryText := by
  have htrim : (listed.map entryText).map Text.trim = listed.map entryText := by
    rw [List.map_map]
    refine List.map_congr_left fun e he => ?_
    exact (trim_entryText (h e he).key).trans (by rw [Text.trimEnd_of_trim (h e he).trimmed])
  rw [pieces, Option.getD_some, split_join_entries hne h, htrim, List.filter_eq_self]
  intro piece hp
  obtain ⟨e, -, rfl⟩ := List.mem_map.mp hp
  exact decide_eq_true (entryText_ne_nil e)

/-- Entries with commas between them are read back as they are. -/
theorem entries_join (hne : listed ≠ []) (h : ∀ e ∈ listed, IsEntry e) :
    entries (Text.join [','] (listed.map entryText)) = .ok listed := by
  have hpieces := pieces_join_entries hne h
  rw [pieces, Option.getD_some] at hpieces
  rw [entries, hpieces, mapM_eq_ok_iff, List.forall₂_map_left_iff, List.forall₂_same]
  intro e he
  have hkey := (h e he).key
  rw [entry_eq, isMalformed_entryText hkey, keyOf_entryText hkey, valueOf_entryText hkey, (h e he).trimmed]
  rfl

end Entries

theorem isComponentChar_of_mem_name (naming : FileNaming) : ∀ c ∈ naming.name, isComponentChar c = true := by
  have hall : naming.name.all isComponentChar = true := by cases naming <;> decide
  exact List.all_eq_true.mp hall

theorem isComponentChar_of_mem_booleanText (b : Bool) : ∀ c ∈ booleanText b, isComponentChar c = true := by
  have hall : (booleanText b).all isComponentChar = true := by cases b <;> decide
  exact List.all_eq_true.mp hall

theorem isComponentChar_of_validate {config : Config} (h : config.validate = .ok config) :
    ∀ c ∈ config.component, isComponentChar c = true := by
  intro c hc
  by_contra hother
  have hany : config.component.any (!isComponentChar ·) = true :=
    List.any_eq_true.mpr ⟨c, hc, by rw [Bool.eq_false_iff.mpr hother]; rfl⟩
  rw [validate, objection?, hany, Bool.or_true, if_pos rfl] at h
  cases h

theorem trimmed_of_isComponentChar {value : Text} (h : ∀ c ∈ value, isComponentChar c = true) :
    value.trim = value ∧ ',' ∉ value :=
  ⟨Text.trim_of_unblank fun c hc => (unblank_of_isComponentChar (h c hc)).1,
    fun hm => (unblank_of_isComponentChar (h _ hm)).2 rfl⟩

theorem trimmed_of_mem_allEntries {config : Config} (hvalid : config.validate = .ok config)
    (htrim : config.level.trim = config.level) (hcomma : ',' ∉ config.level) :
    ∀ e ∈ config.allEntries, e.2.trim = e.2 ∧ ',' ∉ e.2 := by
  simp only [allEntries, List.forall_mem_cons]
  exact ⟨trimmed_of_isComponentChar (isComponentChar_of_mem_name config.naming),
    trimmed_of_isComponentChar (isComponentChar_of_validate hvalid),
    trimmed_of_isComponentChar (isComponentChar_of_mem_booleanText config.helpers),
    ⟨htrim, hcomma⟩, fun _ h => absurd h List.not_mem_nil⟩

theorem isEntry_of_mem_allEntries {config : Config} (hvalid : config.validate = .ok config)
    (htrim : config.level.trim = config.level) (hcomma : ',' ∉ config.level) : ∀ e ∈ config.allEntries, IsEntry e := by
  intro e he
  have hkey : e.1 ∈ config.allEntries.map (·.1) := List.mem_map_of_mem he
  obtain ⟨htrimmed, hvalue⟩ := trimmed_of_mem_allEntries hvalid htrim hcomma e he
  exact ⟨isKey_of_mem_settingKeys hkey, htrimmed, hvalue⟩

theorem foldlM_allEntries (base config : Config) : config.allEntries.foldlM apply base = .ok config := by
  obtain ⟨naming, component, helpers, level⟩ := config
  cases naming <;> cases helpers <;> rfl

section Level

variable {files : Files} {parameter : Option Text} {config : Config} {key piece value : Text}

theorem isSome_given_of_mem (h : piece ∈ pieces parameter) (hfor : isFor key piece = true) :
    (given? key (pieces parameter)).isSome := by
  have hmem : piece ∈ (pieces parameter).filter (isFor key) := List.mem_filter.mpr ⟨h, hfor⟩
  rw [given?, Option.isSome_map, List.getLast?_isSome]
  exact List.ne_nil_of_mem hmem

theorem comma_not_mem_of_given (h : given? key (pieces parameter) = some value) : ',' ∉ value := by
  obtain ⟨piece, hlast, rfl⟩ := Option.map_eq_some_iff.mp h
  have hpiece : piece ∈ pieces parameter := (List.mem_filter.mp (List.mem_of_getLast? hlast)).1
  obtain ⟨uncut, huncut, rfl⟩ := List.mem_map.mp (List.mem_filter.mp hpiece).1
  intro hm
  have hrest : ',' ∈ uncut.trim.dropWhile (· ≠ '=') := List.mem_of_mem_tail (Text.mem_of_mem_trim hm)
  exact Text.separator_not_mem_piece huncut (Text.mem_of_mem_trim ((List.dropWhile_suffix _).subset hrest))

/-- Settings are what the entries settle on top of the configuration file. -/
theorem eq_settled_of_ofParameter (h : ofParameter files parameter = .ok config) :
    ∃ base, ((given? "ConfigFile" (pieces parameter)).map (ofFile files)).getD (.ok {}) = .ok base ∧
      config = settled base (pieces parameter) := by
  rw [ofParameter_eq_meaning, meaning] at h
  split at h
  next => cases h
  split at h
  next => cases h
  next base hbase =>
    split at h
    next => cases h
    next => exact ⟨base, hbase, (eq_of_validate h).symm⟩

/-- No entry puts a comma into the level. -/
theorem comma_not_mem_level (h : ofParameter files parameter = .ok config)
    (hlevel : (given? "LogLevel" (pieces parameter)).isSome) : ',' ∉ config.level := by
  obtain ⟨base, -, rfl⟩ := eq_settled_of_ofParameter h
  obtain ⟨level, hlevel⟩ := Option.isSome_iff_exists.mp hlevel
  rw [settled, hlevel]
  exact comma_not_mem_of_given hlevel

theorem isSome_configFile_of_comma (h : ofParameter files parameter = .ok config) (hcomma : ',' ∈ config.level) :
    (given? "ConfigFile" (pieces parameter)).isSome := by
  by_contra hfile
  obtain ⟨base, hbase, hsettled⟩ := eq_settled_of_ofParameter h
  rw [Option.not_isSome_iff_eq_none.mp hfile] at hbase
  cases hbase
  cases hlevel : given? "LogLevel" (pieces parameter) with
  | some level => exact comma_not_mem_level h (by rw [hlevel]; rfl) hcomma
  | none =>
    have hdefault : config.level = "warn" := by rw [hsettled, settled, hlevel]; rfl
    rw [hdefault] at hcomma
    exact absurd hcomma (by decide)

/-- Printed settings have an entry for the level even where a comma cuts it. -/
theorem isSome_level_of_parameterText (config : Config) :
    (given? "LogLevel" (pieces (some config.parameterText))).isSome := by
  have hkey : IsKey "LogLevel" := isKey_of_mem_settingKeys (by decide)
  have hlead : ',' ∉ ("LogLevel=" : Text) := by decide
  obtain ⟨first, more, hsplit⟩ := List.exists_cons_of_ne_nil (Text.split_ne_nil config.level ',')
  have huncut : entryText ("LogLevel", first) ∈ (entryText ("LogLevel", config.level)).split ',' := by
    have hentry (value : Text) : entryText ("LogLevel", value) = "LogLevel=" ++ value := rfl
    rw [hentry, hentry, Text.split_append_of_not_mem hlead, hsplit]
    exact List.mem_cons_self
  have hpiece : (entryText ("LogLevel", first)).trim ∈ pieces (some config.parameterText) := by
    have hmem := Text.mem_split_join_concat huncut (config.allEntries.dropLast.map entryText)
    refine List.mem_filter.mpr ⟨List.mem_map_of_mem hmem, ?_⟩
    rw [trim_entryText hkey]
    exact decide_eq_true (entryText_ne_nil _)
  refine isSome_given_of_mem hpiece ?_
  rw [trim_entryText hkey, isFor, isMalformed_entryText hkey, keyOf_entryText hkey]
  simp

end Level

/-- Settings with no blank at an end of their level are read back from the parameter printed from them exactly if the level
holds no comma. With a comma no parameter gives them but by a configuration file. -/
theorem ofParameter_parameterText_iff (files : Files) {config : Config} (hvalid : config.validate = .ok config)
    (htrim : config.level.trim = config.level) :
    (ofParameter files (some config.parameterText) = .ok config ↔ ',' ∉ config.level) ∧
      ∀ parameter, ofParameter files parameter = .ok config → ',' ∈ config.level →
        (given? "ConfigFile" (pieces parameter)).isSome := by
  refine ⟨⟨fun h => ?_, fun hcomma => ?_⟩, fun parameter => isSome_configFile_of_comma⟩
  · exact comma_not_mem_level h config.isSome_level_of_parameterText
  · have hentries : entries ((some config.parameterText).getD []) = .ok config.allEntries :=
      entries_join (List.cons_ne_nil _ _) (isEntry_of_mem_allEntries hvalid htrim hcomma)
    rw [ofParameter_of_entries hentries]
    change config.allEntries.foldlM apply {} >>= validate = .ok config
    rw [foldlM_allEntries]
    exact hvalid

theorem ofParameter_parameterText_iff_span :
    let config : Config := { naming := .dropPath, component := "lnd_2", helpers := true, level := "[span\x7ba=1\x7d]=trace" }
    config.validate = .ok config ∧ config.level.trim = config.level ∧ ',' ∉ config.level ∧
      config.parameterText = "FileNaming=DropPath,Component=lnd_2,Helpers=true,LogLevel=[span\x7ba=1\x7d]=trace" ∧
      ofParameter (fun _ => none) (some config.parameterText) = .ok config := by
  intro config
  have hvalid : config.validate = .ok config := by decide +kernel
  have htrim : config.level.trim = config.level := by decide +kernel
  have hcomma : ',' ∉ config.level := by decide +kernel
  have htext : config.parameterText =
      "FileNaming=DropPath,Component=lnd_2,Helpers=true,LogLevel=[span\x7ba=1\x7d]=trace" := by decide +kernel
  obtain ⟨hread, -⟩ := ofParameter_parameterText_iff (fun _ => none) hvalid htrim
  exact ⟨hvalid, htrim, hcomma, htext, hread.mpr hcomma⟩

/-- The parameter printed from the settings gives them back. -/
def IsGivenByParameter (config : Config) : Prop :=
  config.validate = .ok config → config.level.trim = config.level →
    ∀ files, ofParameter files (some config.parameterText) = .ok config

/-- A level may be several directives with commas between them, but a comma also ends an entry: what follows is refused, or it is
an entry of its own. -/
theorem not_isGivenByParameter_directives :
    ¬ IsGivenByParameter { level := "zap_codegen=trace,info" } ∧ ¬ IsGivenByParameter { level := "warn,LogLevel=info" } := by
  refine ⟨fun h => ?_, fun h => ?_⟩
  · exact absurd (h (by decide +kernel) (by decide +kernel) fun _ => none) (by decide +kernel)
  · exact absurd (h (by decide +kernel) (by decide +kernel) fun _ => none) (by decide +kernel)

end Config

end SwiftConnections
