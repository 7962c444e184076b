import SwiftConnections.Proofs.Connections.PassLines
import SwiftConnections.Proofs.Connections.ResolvedService

namespace SwiftConnections

/-- The call in the body of a function over REST, with the named data. -/
def restCallLine (binding : HttpBinding) (body : Text) : Text :=
  "        lndRest.run(method: " ++ binding.verb.swift ++ ", path: \"" ++ binding.path.swiftLiteral ++
    "\", data: " ++ body ++ ", completion: completion)"

def guardLine : Text :=
  "        " ++ "guard let json = try? request.jsonString() else \x7b return \x7d"

/-- The log of a call to a method without a binding. -/
def stubLine (name : Text) : Text :=
  "        Logger.error(\"" ++ name ++ " not implemented\", customPrefix: \"📺\")"

/-- The lines in the body of a method's function over REST. -/
def restLines (name : Text) : Except BindingError HttpBinding → List Text
  | .ok binding => if binding.hasBody then [guardLine, restCallLine binding "json"] else [restCallLine binding "nil"]
  | .error _ => [stubLine name]

theorem writesLines_restCall {binding : HttpBinding} {body : Text} (hb : '\n' ∉ body)
    (hp : ∀ segment ∈ binding.path.segments, '\n' ∉ segment.text) :
    WritesLines 2 (SwiftMethod.restCall binding body) [restCallLine binding body] := by
  have hpath := PathTemplate.lineFeed_not_mem_swiftLiteral hp
  have hverb := binding.verb.lineFeed_not_mem_swift
  have hcall : '\n' ∉ "lndRest.run(method: " ++ binding.verb.swift ++ ", path: \"" ++ binding.path.swiftLiteral :=
    List.not_mem_append (List.not_mem_append (List.not_mem_append (Text.not_mem_literal (by decide)) hverb)
      (Text.not_mem_literal (by decide))) hpath
  have hline : '\n' ∉ "lndRest.run(method: " ++ binding.verb.swift ++ ", path: \"" ++ binding.path.swiftLiteral ++
      "\", data: " ++ body ++ ", completion: completion)" :=
    List.not_mem_append (List.not_mem_append (List.not_mem_append hcall (Text.not_mem_literal (by decide))) hb)
      (Text.not_mem_literal (by decide))
  exact .line (c := 'l') (List.mem_of_mem_head? rfl) (by decide) hline

theorem SwiftMethod.writesLines_restBody {m : SwiftMethod} (h : m.IsUnbroken) :
    WritesLines 2 m.restBody (restLines m.name m.binding) := by
  unfold restBody restLines
  cases hb : m.binding with
  | error e =>
    have hlog : '\n' ∉ "Logger.error(\"" ++ m.name ++ " not implemented\", customPrefix: \"📺\")" :=
      List.not_mem_append (List.not_mem_append (Text.not_mem_literal (by decide)) h.name)
        (Text.not_mem_literal (by decide))
    exact .line (c := 'L') (List.mem_of_mem_head? rfl) (by decide) hlog
  | ok binding =>
    have hguard : WritesLines 2 (line "guard let json = try? request.jsonString() else \x7b return \x7d") [guardLine] :=
      .line (c := 'g') (List.mem_of_mem_head? rfl) (by decide) (Text.not_mem_literal (by decide))
    have hjson := writesLines_restCall (by decide : '\n' ∉ ("json" : Text)) (h.path binding hb)
    have hnil := writesLines_restCall (by decide : '\n' ∉ ("nil" : Text)) (h.path binding hb)
    cases hbody : binding.hasBody with
    | true =>
      simp only [hbody, if_true]
      exact hguard.append hjson
    | false =>
      simp only [hbody, Bool.false_eq_true, if_false]
      exact hnil

theorem indented_of_mem_restLines {name t : Text} {binding : Except BindingError HttpBinding}
    (h : t ∈ restLines name binding) : "        ".toList <+: t := by
  have hcall (binding : HttpBinding) (body : Text) : "        ".toList <+: restCallLine binding body :=
    List.isPrefixOf_iff_prefix.mp rfl
  unfold restLines at h
  split at h
  next binding =>
    split at h
    next =>
      rcases List.mem_cons.mp h with rfl | h
      · exact List.isPrefixOf_iff_prefix.mp rfl
      · exact List.mem_singleton.mp h ▸ hcall binding _
    next => exact List.mem_singleton.mp h ▸ hcall binding _
  next => exact List.mem_singleton.mp h ▸ List.isPrefixOf_iff_prefix.mp rfl

/-- The bodies of the functions that are declared directly in a type, in lines. -/
def functionBodies : List Text → List (List Text)
  | [] => []
  | t :: rest =>
    (if isFunctionLine t then [rest.takeWhile (· ≠ "    \x7d".toList)] else []) ++ functionBodies rest

theorem functionBodies_append_of_not {ts : List Text} (h : ∀ t ∈ ts, isFunctionLine t = false) (rest : List Text) :
    functionBodies (ts ++ rest) = functionBodies rest := by
  induction ts with
  | nil => rfl
  | cons t ts ih =>
    obtain ⟨ht, hts⟩ := List.forall_mem_cons.mp h
    rw [List.cons_append, functionBodies, ht, ih hts]
    rfl

theorem functionBodies_function {opening : Text} {body : List Text} (ho : isFunctionLine opening = true)
    (hb : ∀ t ∈ body, "        ".toList <+: t) (rest : List Text) :
    functionBodies (opening :: body ++ "    \x7d".toList :: rest) = body :: functionBodies rest := by
  have hnot : ∀ t ∈ body, isFunctionLine t = false := by
    intro t ht
    obtain ⟨u, rfl⟩ := hb t ht
    rfl
  have hinside : ∀ t ∈ body, decide (t ≠ "    \x7d".toList) = true := by
    intro t ht
    obtain ⟨u, rfl⟩ := hb t ht
    have hline : "        ".toList ++ u = ' ' :: ' ' :: ' ' :: ' ' :: ' ' :: ("   ".toList ++ u) := rfl
    have hclosing : "    \x7d".toList = [' ', ' ', ' ', ' ', '\x7d'] := rfl
    rw [hline, hclosing]
    simp
  have hstop : ("    \x7d".toList :: rest).takeWhile (· ≠ "    \x7d".toList) = [] :=
    List.takeWhile_cons_of_neg (by simp)
  have hend : isFunctionLine "    \x7d" = false := rfl
  rw [List.cons_append, functionBodies, ho, functionBodies_append_of_not hnot, List.takeWhile_append_of_pos hinside,
    hstop, List.append_nil, functionBodies, hend]
  rfl

theorem functionBodies_merges {α : Type} {items : List α} {entry body : α → List Text} {entries marks : List (List Text)}
    {lines : List Text} (h : Merges entries marks lines) (hentries : entries = items.map entry)
    (hentry : ∀ a ∈ items, ∀ rest, functionBodies (entry a ++ rest) = body a :: functionBodies rest)
    (hmark : ∀ mark ∈ marks, ∀ t ∈ mark, isFunctionLine t = false) (rest : List Text) :
    functionBodies (lines ++ rest) = items.map body ++ functionBodies rest := by
  induction h generalizing items with
  | nil =>
    rw [List.map_eq_nil_iff.mp hentries.symm]
    rfl
  | @entry entries marks lines first _ ih =>
    obtain ⟨a, others, rfl, rfl, hothers⟩ := List.map_eq_cons_iff.mp hentries.symm
    obtain ⟨ha, hrest⟩ := List.forall_mem_cons.mp hentry
    rw [List.append_assoc, ha, ih hothers.symm hrest hmark, List.map_cons, List.cons_append]
  | @mark entries marks lines first _ ih =>
    obtain ⟨hfirst, hmarks⟩ := List.forall_mem_cons.mp hmark
    rw [List.append_assoc, functionBodies_append_of_not hfirst, ih hentries hentry hmarks]

/-- The function of a REST connection after an empty line. -/
def SwiftMethod.restFunctionLines (m : SwiftMethod) : List Text :=
  [] :: (m.functionLine .rest :: restLines m.name m.binding ++ ["    \x7d".toList])

theorem SwiftMethod.functionBodies_restFunctionLines (m : SwiftMethod) (rest : List Text) :
    functionBodies (m.restFunctionLines ++ rest) = restLines m.name m.binding :: functionBodies rest := by
  have hbody : ∀ t ∈ restLines m.name m.binding, "        ".toList <+: t := fun t ht => indented_of_mem_restLines ht
  have hfunction := functionBodies_function (m.isFunctionLine_functionLine .rest) hbody rest
  rw [restFunctionLines, List.cons_append, List.append_assoc]
  exact hfunction

/-- The bodies of the functions in the text of a REST connection. -/
def SwiftService.restBodies (s : SwiftService) : List (List Text) :=
  functionBodies ((render 0 (Artifact.rest.code s)).split '\n')

/-- The body of a method's function over REST, as its own name and options give it. -/
def Method.restBody (m : Method) : List Text :=
  restLines m.name m.options.binding

theorem SwiftService.writesLines_restFunctions {s : SwiftService} (h : ∀ m ∈ s.methods, m.IsUnbroken) :
    ∃ lines, WritesLines 1 (s.functions fun m => m.codeOr m.restFunction) lines ∧
      Merges (s.supported.map (·.restFunctionLines)) (s.skipped.map fun m => [[], m.markLine]) lines := by
  have hfunction : ∀ m ∈ s.methods, WritesLines 1 m.restFunction m.restFunctionLines.tail :=
    fun m hm => (SwiftMethod.writesLines_restBody (h m hm)).block (h m hm).signature
  exact pass_merges true h hfunction

theorem SwiftService.restBodies_eq {s : SwiftService} (hheader : '\n' ∉ s.conforming "final class" s.names.rest)
    (h : ∀ m ∈ s.methods, m.IsUnbroken) : s.restBodies = s.supported.map fun m => restLines m.name m.binding := by
  obtain ⟨functions, hfunctions, hmerges⟩ := writesLines_restFunctions h
  have hproperty : WritesLines 1 (line "private let lndRest: LNDRest") _ :=
    .line (c := 'p') (List.mem_of_mem_head? rfl) (by decide) (Text.not_mem_literal (by decide))
  have hassignment : WritesLines 2 (line "self.lndRest = lndRest") _ :=
    .line (c := 's') (List.mem_of_mem_head? rfl) (by decide) (Text.not_mem_literal (by decide))
  have hinit := hassignment.block (by decide : '\n' ∉ ("init(lndRest: LNDRest)" : Text))
  have hcode := (((hproperty.append .emptyLine).append hinit).append hfunctions).block hheader
  have hmarks : ∀ mark ∈ s.skipped.map fun m => [[], m.markLine], ∀ t ∈ mark, isFunctionLine t = false := by
    intro mark hmark
    obtain ⟨m, -, rfl⟩ := List.mem_map.mp hmark
    exact List.forall_mem_cons.mpr ⟨rfl, List.forall_mem_singleton.mpr m.isFunctionLine_markLine⟩
  have hrest : Artifact.rest.code s = s.restCode := rfl
  rw [restBodies, hrest, restCode, hcode.split_render]
  have hbodies := functionBodies_merges hmerges rfl (fun m _ => m.functionBodies_restFunctionLines) hmarks
  simp only [List.cons_append, List.append_assoc, List.nil_append]
  -- The lines before the functions open none.
  exact (hbodies _).trans (List.append_nil _)

theorem Service.Resolves.restBodies_eq {service : Service} {s : SwiftService} (h : service.Resolves s) :
    s.restBodies = (service.methods.filter (·.shape.isSupported)).map (·.restBody) := by
  rw [SwiftService.restBodies_eq h.conforming_rest h.isUnbroken]
  obtain ⟨⟨types, file, hresolved⟩, -⟩ := h
  obtain ⟨methods, hmapM, heq⟩ := bind_eq_ok_iff.mp hresolved
  cases heq
  have hbody {method : Method} {m : SwiftMethod} (hm : SwiftMethod.ofMethod types service.name method = .ok m) :
      (m.isSupported, restLines m.name m.binding) = (method.shape.isSupported, method.restBody) := by
    obtain ⟨hname, -⟩ := SwiftMethod.ofMethod_names hm
    obtain ⟨hshape, hbinding⟩ := SwiftMethod.ofMethod_eq_ok hm
    rw [SwiftMethod.isSupported, hshape, hname, hbinding, Method.restBody]
  have hpairs := map_eq_map_of_mapM hmapM fun _ _ hm => hbody hm
  have hbodies := congrArg (fun pairs => (pairs.filter (·.1)).map Prod.snd) hpairs
  simp only [List.filter_map, List.map_map] at hbodies
  exact hbodies

/-- The body of a method stands behind those of the methods before it. -/
theorem Service.Resolves.getElem?_restBodies {service : Service} {s : SwiftService} (h : service.Resolves s)
    {before after : List Method} {method : Method} (hmethods : service.methods = before ++ method :: after)
    (hs : method.shape.isSupported = true) :
    s.restBodies[(before.filter (·.shape.isSupported)).length]? = some method.restBody := by
  have hfilter : service.methods.filter (·.shape.isSupported) = before.filter (·.shape.isSupported) ++
      method :: after.filter (·.shape.isSupported) := by
    rw [hmethods, List.filter_append, List.filter_cons, if_pos hs]
  rw [h.restBodies_eq, hfilter, List.getElem?_map, List.getElem?_append_right (Nat.le_refl _), Nat.sub_self]
  rfl

/-- What stands in a log behind the name and a blank. -/
def stubEnd : Text :=
  "not implemented\", customPrefix: \"📺\")"

theorem stubLine_eq (name : Text) : stubLine name = "        Logger.error(\"" ++ (name ++ ' ' :: stubEnd) := by
  have hblank : " not implemented\", customPrefix: \"📺\")".toList = ' ' :: stubEnd := by decide
  unfold stubLine
  rw [List.append_assoc, hblank]

/-- A name without quotes and backslashes stays in the literal of the log. -/
theorem outsideLiterals_stubLine {name : Text} (hq : '"' ∉ name) (hb : '\\' ∉ name) :
    outsideLiterals false (stubLine name) = "        Logger.error(\"\", customPrefix: \"\")" := by
  have hopening (rest : Text) : outsideLiterals false ("        Logger.error(\"" ++ rest) =
      "        Logger.error(\"" ++ outsideLiterals true rest := rfl
  have hclosing : outsideLiterals true (' ' :: stubEnd) = "\", customPrefix: \"\")" := by decide
  rw [stubLine_eq, hopening, outsideLiterals_append hq hb, hclosing]
  decide

theorem stubLine_contains {c : Char} {word : Text} (hc : c ∉ "        Logger.error(\"".toList)
    (hblank : ' ' ∉ c :: word) (hend : stubEnd.contains (c :: word) = false) (name : Text) :
    (stubLine name).contains (c :: word) = name.contains (c :: word) := by
  have hnot : ¬ c :: word <:+: stubEnd := by
    rw [← Text.contains_iff_infix, hend]
    exact Bool.false_ne_true
  rw [Bool.eq_iff_iff, Text.contains_iff_infix, Text.contains_iff_infix, stubLine_eq, Text.cons_infix_append_iff hc,
    Text.infix_append_cons_iff hblank, or_iff_left hnot]

/-- What a body holds that makes a call or uses the completion. -/
def callWords : List Text :=
  ["lndRest.run", "completion"]

/-- The log of a method holds these words only as far as the name does, and outside of its literals not at all if the
name stays in one. -/
theorem stubLine_words (name : Text) : ∀ word ∈ callWords,
    (stubLine name).contains word = name.contains word ∧
      ('"' ∉ name → '\\' ∉ name → (outsideLiterals false (stubLine name)).contains word = false) := by
  have hcall : (stubLine name).contains "lndRest.run" = name.contains "lndRest.run" :=
    stubLine_contains (c := 'l') (by decide) (by decide) (by decide) name
  have hcompletion : (stubLine name).contains "completion" = name.contains "completion" :=
    stubLine_contains (c := 'c') (by decide) (by decide) (by decide) name
  have houtside : ∀ word ∈ callWords, Text.contains "        Logger.error(\"\", customPrefix: \"\")" word = false := by
    decide
  intro word hword
  refine ⟨?_, fun hq hb => outsideLiterals_stubLine hq hb ▸ houtside word hword⟩
  rcases List.mem_cons.mp hword with rfl | hword
  · exact hcall
  · exact List.mem_singleton.mp hword ▸ hcompletion

/-- The bodies in a REST connection are those that the names and bindings of the methods with a function give, each on
its own. -/
theorem rest_bodies_follow_bindings {service : Service} {s : SwiftService} (h : service.Resolves s) :
    s.restBodies = (service.methods.filter (·.shape.isSupported)).map (·.restBody) ∧
      (∀ method ∈ service.methods, ∀ e, method.options.binding = .error e →
        method.restBody = [stubLine method.name] ∧ ∀ word ∈ callWords,
          (stubLine method.name).contains word = method.name.contains word ∧
            ('"' ∉ method.name → '\\' ∉ method.name →
              (outsideLiterals false (stubLine method.name)).contains word = false)) ∧
      ∀ (service' : Service) (s' : SwiftService), service'.Resolves s' →
        ∀ (method : Method) (before after before' after' : List Method), service.methods = before ++ method :: after →
        service'.methods = before' ++ method :: after' → method.shape.isSupported = true →
        s.restBodies[(before.filter (·.shape.isSupported)).length]? = some method.restBody ∧
          s'.restBodies[(before'.filter (·.shape.isSupported)).length]? = some method.restBody := by
  refine ⟨h.restBodies_eq, fun method _ e he => ⟨?_, stubLine_words method.name⟩, ?_⟩
  · rw [Method.restBody, he, restLines]
  · intro service' s' h' method before after before' after' hmethods hmethods' hs
    exact ⟨h.getElem?_restBodies hmethods hs, h'.getElem?_restBodies hmethods' hs⟩

theorem rest_bodies_follow_bindings_three :
    let ping : Method := {
      name := "Ping", input := ".T", output := ".T", clientStreaming := false, serverStreaming := false, options := {} }
    let chat : Method := { ping with
      name := "Chat", clientStreaming := true, options := ⟨false, some { pattern := some (.get "/v1/chat") }⟩ }
    let send : Method := { ping with
      name := "Send", options := ⟨false, some { pattern := some (.post "/v1/send"), body := "*" }⟩ }
    let watch : Method := { ping with
      name := "Watch", serverStreaming := true, options := ⟨false, some { pattern := some (.get "/v1/watch") }⟩ }
    let service : Service := { name := "S", methods := [chat, ping, send, watch] }
    let other : Service := { name := "A", methods := [watch, chat] }
    let bodies : List (List Text) := [
      ["        Logger.error(\"Ping not implemented\", customPrefix: \"📺\")"],
      ["        guard let json = try? request.jsonString() else \x7b return \x7d",
        "        lndRest.run(method: .post, path: \"/v1/send\", data: json, completion: completion)"],
      ["        lndRest.run(method: .get, path: \"/v1/watch\", data: nil, completion: completion)"]]
    ∃ s s', service.Resolves s ∧ other.Resolves s' ∧ s.restBodies = bodies ∧
      (outsideLiterals false (stubLine "Ping")).contains "completion" = false ∧
      s.restBodies[2]? = s'.restBodies[0]? := by
  intro ping chat send watch service other bodies
  let types := TypeIndex.empty.insert { package := [], swiftPrefix := none, path := ["T"] }
  let file : ProtoFile := { name := "a.proto", package := [], swiftPrefix := none, services := [service, other] }
  obtain ⟨s, hs⟩ : ∃ s, SwiftService.ofService types file service = .ok s := ⟨_, rfl⟩
  obtain ⟨s', hs'⟩ : ∃ s, SwiftService.ofService types file other = .ok s := ⟨_, rfl⟩
  have h : service.Resolves s := ⟨⟨types, file, hs⟩, by decide, by cases hs; decide +kernel⟩
  have h' : other.Resolves s' := ⟨⟨types, file, hs'⟩, by decide, by cases hs'; decide +kernel⟩
  obtain ⟨hbodies, hstub, hown⟩ := rest_bodies_follow_bindings h
  obtain ⟨-, hwords⟩ := hstub ping (List.mem_cons_of_mem _ List.mem_cons_self) .noVersionedPath (by decide)
  obtain ⟨hwatch, hwatch'⟩ := hown other s' h' watch [chat, ping, send] [] [] [chat] rfl rfl rfl
  exact ⟨s, s', h, h', hbodies.trans (by decide +kernel),
    (hwords "completion" (by decide)).2 (by decide) (by decide), hwatch.trans hwatch'.symm⟩

/-- No body of a method without a binding makes a call or uses the completion. -/
def StubsIdle : Prop :=
  ∀ (service : Service) (s : SwiftService), service.Resolves s → ∀ (i : Nat) (method : Method) (e : BindingError),
    (service.methods.filter (·.shape.isSupported))[i]? = some method → method.options.binding = .error e →
    ∀ body, s.restBodies[i]? = some body → ∀ t ∈ body, ∀ word ∈ callWords,
      (outsideLiterals false t).contains word = false

/-- A name may end the literal of the log and go on with code. -/
theorem not_stubsIdle : ¬ StubsIdle := by
  intro h
  let types := TypeIndex.empty.insert { package := [], swiftPrefix := none, path := ["T"] }
  let method : Method := {
    name := "a\"); completion(\"b", input := ".T", output := ".T", clientStreaming := false, serverStreaming := false
    options := {} }
  let service : Service := { name := "S", methods := [method] }
  let file : ProtoFile := { name := "a.proto", package := [], swiftPrefix := none, services := [service] }
  obtain ⟨s, hs⟩ : ∃ s, SwiftService.ofService types file service = .ok s := ⟨_, rfl⟩
  have hresolves : service.Resolves s := ⟨⟨types, file, hs⟩, by decide, by cases hs; decide +kernel⟩
  have hmethods : service.methods = [] ++ method :: [] := rfl
  have hbody := hresolves.getElem?_restBodies hmethods rfl
  have hidle := h service s hresolves 0 method .noVersionedPath rfl (by decide) _ hbody (stubLine method.name)
    (by decide) "completion" (by decide)
  exact absurd hidle (by decide)

end SwiftConnections
