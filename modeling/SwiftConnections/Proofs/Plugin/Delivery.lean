import SwiftConnections.Plugin.CommandLine
import SwiftConnections.Proofs.Except
import SwiftConnections.Proofs.Plugin.ResponseReading
import SwiftConnections.Proofs.Plugin.SinkTurns

namespace SwiftConnections

/-- What becomes of the bytes of a request: they cannot be read, something that is declared has no name, or there
is a job. -/
inductive Decodes (input : Bytes) : Except RunError Job → Prop
  | malformed (h : Request.decode? input = none) : Decodes input (.error .malformedRequest)
  | unnamed {request : Request} {e : MissingName} (h : Request.decode? input = some request)
      (hjob : request.job = .error e) : Decodes input (.error (.missingName e))
  | decoded {request : Request} {job : Job} (h : Request.decode? input = some request)
      (hjob : request.job = .ok job) : Decodes input (.ok job)

/-- What a run comes to. There are settings only for a job, and there is a response only for settings. -/
inductive Responds (files : Files) (input : Bytes) : Except RunError Response → Prop
  | undecoded {e : RunError} (h : Decodes input (.error e)) : Responds files input (.error e)
  | unsettled {job : Job} {e : ConfigError} (h : Decodes input (.ok job))
      (hconfig : Config.ofParameter files job.parameter = .error e) : Responds files input (.error (.config e))
  | ungenerated {job : Job} {config : Config} {e : UnknownType} (h : Decodes input (.ok job))
      (hconfig : Config.ofParameter files job.parameter = .ok config)
      (hgenerate : job.model.generate config = .error e) : Responds files input (.error (.unknownType e))
  | generated {job : Job} {config : Config} {response : Response} (h : Decodes input (.ok job))
      (hconfig : Config.ofParameter files job.parameter = .ok config)
      (hgenerate : job.model.generate config = .ok response) : Responds files input (.ok response)

theorem Decodes.ofBytes_eq {input : Bytes} {outcome : Except RunError Job} (h : Decodes input outcome) :
    Job.ofBytes input = outcome := by
  cases h with
  | malformed h => simp only [Job.ofBytes, h]
  | unnamed h hjob => simp only [Job.ofBytes, h, hjob, mapError_error]
  | decoded h hjob => simp only [Job.ofBytes, h, hjob, mapError_ok]

theorem exists_decodes (input : Bytes) : ∃ outcome, Decodes input outcome := by
  cases h : Request.decode? input with
  | none => exact ⟨_, .malformed h⟩
  | some request =>
    cases hjob : request.job with
    | error e => exact ⟨_, .unnamed h hjob⟩
    | ok job => exact ⟨_, .decoded h hjob⟩

theorem Responds.respond_eq {files : Files} {input : Bytes} {outcome : Except RunError Response}
    (h : Responds files input outcome) : respond files input = outcome := by
  cases h with
  | undecoded h => simp only [respond, h.ofBytes_eq, bind, Except.bind]
  | unsettled h hconfig =>
    simp only [respond, h.ofBytes_eq, Job.config, hconfig, mapError_error, bind, Except.bind]
  | ungenerated h hconfig hgenerate =>
    simp only [respond, h.ofBytes_eq, Job.config, hconfig, Job.respond, hgenerate, mapError_ok, mapError_error, bind,
      Except.bind]
  | generated h hconfig hgenerate =>
    simp only [respond, h.ofBytes_eq, Job.config, hconfig, Job.respond, hgenerate, mapError_ok, bind, Except.bind]

theorem exists_responds (files : Files) (input : Bytes) : ∃ outcome, Responds files input outcome := by
  obtain ⟨decoded, h⟩ := exists_decodes input
  cases decoded with
  | error e => exact ⟨_, .undecoded h⟩
  | ok job =>
    cases hconfig : Config.ofParameter files job.parameter with
    | error e => exact ⟨_, .unsettled h hconfig⟩
    | ok config =>
      cases hgenerate : job.model.generate config with
      | error e => exact ⟨_, .ungenerated h hconfig hgenerate⟩
      | ok response => exact ⟨_, .generated h hconfig hgenerate⟩

theorem responds_iff {files : Files} {input : Bytes} {outcome : Except RunError Response} :
    Responds files input outcome ↔ respond files input = outcome := by
  refine ⟨Responds.respond_eq, ?_⟩
  rintro rfl
  obtain ⟨outcome, h⟩ := exists_responds files input
  rwa [h.respond_eq]

/-- A run that is given up has written nothing. -/
theorem Responds.run_error {files : Files} {input : Bytes} {e : RunError} (h : Responds files input (.error e))
    (sink : Sink) : run files input sink = ⟨[], some (.run e)⟩ := by
  simp only [run, h.respond_eq]

theorem Responds.run_ok {files : Files} {input : Bytes} {response : Response}
    (h : Responds files input (.ok response)) (sink : Sink) :
    run files input sink = ⟨sink.accepted response.encode,
      if sink.succeeds response.encode then none else some .output⟩ := by
  simp only [run, h.respond_eq]

theorem Responds.runPlugin_error {env : Environment} {e : RunError}
    (h : Responds env.files env.input (.error e)) : env.runPlugin.exitCode = 1 ∧ env.runPlugin.output = [] := by
  cases h with
  | undecoded h => simp [Environment.runPlugin, h.ofBytes_eq, Environment.giveUp]
  | unsettled h hconfig =>
    simp [Environment.runPlugin, h.ofBytes_eq, Job.config, hconfig, mapError_error, Environment.giveUp]
  | ungenerated h hconfig hgenerate =>
    simp [Environment.runPlugin, h.ofBytes_eq, Job.config, hconfig, Environment.runJob, Job.respond, hgenerate,
      mapError_ok, mapError_error]

theorem Responds.runPlugin_ok {env : Environment} {response : Response}
    (h : Responds env.files env.input (.ok response)) :
    env.runPlugin.exitCode = 0 ∧ env.runPlugin.output = response.encode := by
  cases h with
  | generated h hconfig hgenerate =>
    simp [Environment.runPlugin, h.ofBytes_eq, Job.config, hconfig, Environment.runJob, Job.respond, hgenerate,
      mapError_ok]

theorem Decodes.dump_error {env : Environment} {e : RunError} (h : Decodes env.input (.error e)) :
    env.dump.exitCode = 1 ∧ env.dump.output = [] := by
  simp [Environment.dump, h.ofBytes_eq, Environment.giveUp]

theorem Decodes.dump_ok {env : Environment} {job : Job} (h : Decodes env.input (.ok job)) :
    env.dump.exitCode = 0 := by
  simp [Environment.dump, h.ofBytes_eq]

/-- The plugin prints what a run writes to a sink that takes everything. -/
theorem runPlugin_output (env : Environment) :
    env.runPlugin.output = (run env.files env.input {}).written := by
  obtain ⟨outcome, h⟩ := exists_responds env.files env.input
  cases outcome with
  | error e => rw [h.run_error, h.runPlugin_error.2]
  | ok response => rw [h.run_ok, h.runPlugin_ok.2, Sink.accepted_none rfl]

/-- A run of the command line has nothing to print: with `--dump-ir` if there is no model, and else if there is
no response. -/
def GivesUp (args : List Text) (env : Environment) : Prop :=
  (("--dump-ir" : Text) ∈ args ∧ ∃ e, Decodes env.input (.error e)) ∨
    (("--dump-ir" : Text) ∉ args ∧ ∃ e, Responds env.files env.input (.error e))

theorem givesUp_dump {args : List Text} (h : ("--dump-ir" : Text) ∈ args) (env : Environment) :
    GivesUp args env ↔ ∃ e, Decodes env.input (.error e) := by
  rw [GivesUp, and_iff_right h, or_iff_left fun hnot => hnot.1 h]

theorem givesUp_plugin {args : List Text} (h : ("--dump-ir" : Text) ∉ args) (env : Environment) :
    GivesUp args env ↔ ∃ e, Responds env.files env.input (.error e) := by
  rw [GivesUp, and_iff_right h, or_iff_right fun hdump => h hdump.1]

theorem commandLine_dump {args : List Text} (hhelp : asksForHelp args = false) (h : ("--dump-ir" : Text) ∈ args)
    (env : Environment) : commandLine args env = env.dump := by
  have hany : args.any (· = ("--dump-ir" : Text)) = true := List.any_eq_true.mpr ⟨_, h, decide_eq_true rfl⟩
  rw [commandLine, if_neg (Bool.eq_false_iff.mp hhelp), if_pos hany]

theorem commandLine_plugin {args : List Text} (hhelp : asksForHelp args = false) (h : ("--dump-ir" : Text) ∉ args)
    (env : Environment) : commandLine args env = env.runPlugin := by
  have hany : ¬args.any (· = ("--dump-ir" : Text)) = true := fun hany => by
    obtain ⟨arg, hm, harg⟩ := List.any_eq_true.mp hany
    exact h (of_decide_eq_true harg ▸ hm)
  rw [commandLine, if_neg (Bool.eq_false_iff.mp hhelp), if_neg hany]

/-- The command line fails with nothing printed if it gives up, and else it succeeds. -/
theorem commandLine_exit {args : List Text} (hhelp : asksForHelp args = false) (env : Environment) :
    (GivesUp args env ∧ (commandLine args env).exitCode = 1 ∧ (commandLine args env).output = []) ∨
      (¬GivesUp args env ∧ (commandLine args env).exitCode = 0) := by
  by_cases hdump : ("--dump-ir" : Text) ∈ args
  · rw [commandLine_dump hhelp hdump, givesUp_dump hdump]
    obtain ⟨outcome, h⟩ := exists_decodes env.input
    cases outcome with
    | error e => exact .inl ⟨⟨e, h⟩, h.dump_error⟩
    | ok job =>
      refine .inr ⟨fun ⟨e, he⟩ => ?_, h.dump_ok⟩
      exact nomatch he.ofBytes_eq.symm.trans h.ofBytes_eq
  · rw [commandLine_plugin hhelp hdump, givesUp_plugin hdump]
    obtain ⟨outcome, h⟩ := exists_responds env.files env.input
    cases outcome with
    | error e => exact .inl ⟨⟨e, h⟩, h.runPlugin_error⟩
    | ok response =>
      refine .inr ⟨fun ⟨e, he⟩ => ?_, h.runPlugin_ok.1⟩
      exact nomatch he.respond_eq.symm.trans h.respond_eq

/-- What a run leaves behind that has a response for a sink. -/
structure Delivers (sink : Sink) (response : Response) (delivery : Delivery) : Prop where
  /-- The first bytes are written, as many as there is room for. -/
  written : delivery.written =
    response.encode.take (min (sink.room.getD response.encode.length) response.encode.length)
  /-- These are the bytes that the sink takes, in whatever turns. -/
  turns : ∀ taken all, sink.Takes response.encode taken all ↔
    taken = delivery.written ∧ (all = true ↔ taken = response.encode)
  /-- The run succeeds if all of it was taken and could be passed on. -/
  succeeds : delivery.error? = none ↔ delivery.written = response.encode ∧ sink.flushFails = false
  fails : delivery.error? ≠ none → delivery.error? = some .output

theorem Responds.delivers {files : Files} {input : Bytes} {response : Response}
    (h : Responds files input (.ok response)) (sink : Sink) :
    Delivers sink response (run files input sink) := by
  rw [h.run_ok]
  constructor
  · exact sink.accepted_eq_take response.encode
  · exact fun taken all => Sink.takes_iff
  · rw [← Sink.succeeds_iff]
    simp
  · intro hne
    exact if_neg fun hs => hne (if_pos hs)

/-- A run is all or nothing. It comes to the error of the first stage that fails, and then it writes nothing, or
to a response, and then the sink alone decides how much of it is written. The whole response can be read again;
lengths on the wire have 64 bits. The command line fails with nothing printed in just the runs that give up. -/
theorem run_all_or_nothing (files : Files) (input : Bytes) :
    (∃ outcome, ∀ other, Responds files input other ↔ other = outcome) ∧
    (∀ e, Responds files input (.error e) → ∀ sink, run files input sink = ⟨[], some (.run e)⟩) ∧
    (∀ response, Responds files input (.ok response) →
      (∀ sink, Delivers sink response (run files input sink)) ∧
      (response.encode.length < 2 ^ 64 → ReadResponse.ofBytes? response.encode =
        some ⟨none, some 1, response.files.map fun file => (some file.name, some file.content)⟩)) ∧
    ∀ args filter, asksForHelp args = false →
      let env : Environment := { input, files, filter }
      let report := commandLine args env
      (report.exitCode = 1 ∧ report.output = [] ↔ GivesUp args env) ∧
      (¬GivesUp args env → report.exitCode = 0) ∧
      (("--dump-ir" : Text) ∉ args → report.output = (run files input {}).written) := by
  refine ⟨⟨respond files input, fun other => responds_iff.trans eq_comm⟩, fun e h => h.run_error,
    fun response h => ⟨h.delivers, Response.read_encode⟩, fun args filter hhelp => ?_⟩
  intro env report
  have hprinted : ("--dump-ir" : Text) ∉ args → report.output = (run files input {}).written := fun hdump =>
    (congrArg Report.output (commandLine_plugin hhelp hdump env)).trans (runPlugin_output env)
  rcases commandLine_exit hhelp env with ⟨hgives, hreport⟩ | ⟨hnot, hexit⟩
  · exact ⟨iff_of_true hreport hgives, fun hnot => absurd hgives hnot, hprinted⟩
  · refine ⟨iff_of_false (fun ⟨hone, _⟩ => ?_) hnot, fun _ => hexit, hprinted⟩
    exact absurd (hexit.symm.trans hone) (by decide)

theorem run_all_or_nothing_unknown_option :
    let files : Files := fun _ => none
    let unknown : Request := { parameter := some "Bogus=1" }
    let e : RunError := .config (.unknownOption "Bogus")
    let env : Environment := { input := unknown.encode, files, filter := none }
    run files unknown.encode {} = ⟨[], some (.run e)⟩ ∧ (commandLine [] env).exitCode = 1 ∧
      (run files [] { room := some 1 }).written = [16] ∧
      ReadResponse.ofBytes? [16, 1] = some ⟨none, some 1, []⟩ := by
  intro files unknown e env
  have hencode : unknown.encode = [18, 7, 66, 111, 103, 117, 115, 61, 49] := by
    simp only [unknown, Request.encode, Request.fields, Field.ofText?, Option.map_some, Option.toList_some,
      List.map_nil, List.nil_append, List.append_nil, Field.encodeAll, Field.encode, WireKey.bytes, Bytes.delimited]
    rw [Bytes.ofVarint_of_lt (by decide), Bytes.ofVarint_of_lt (by decide)]
    decide
  have hempty : Response.encode ⟨[]⟩ = [16, 1] := by
    simp only [Response.encode, Response.fields, List.map_nil, Field.encodeAll, Field.encode, WireKey.bytes]
    rw [Bytes.ofVarint_of_lt (by decide), Bytes.ofVarint_of_lt (by decide)]
    rfl
  have hdecode : Request.decode? unknown.encode = some unknown := by
    have hfit : Field.FitAll Field.depthLimit .request unknown.fields := ⟨rfl, trivial⟩
    have hlength : unknown.encode.length < 2 ^ 64 := by rw [hencode]; decide
    rw [Request.decode?, Field.decode?, Request.encode, Field.decodeAll?_encodeAll _ hfit hlength]
    rfl
  have hunknown : Responds files unknown.encode (.error e) := by
    have hjob : Decodes unknown.encode (.ok ⟨[], some "Bogus=1", ⟨[], _⟩⟩) := .decoded hdecode rfl
    exact .unsettled hjob rfl
  have hresponse : Responds files [] (.ok ⟨[]⟩) := by
    have hnone : Request.decode? [] = some {} := by
      rw [Request.decode?, Field.decode?, Field.decodeAll?, if_pos rfl]
      rfl
    have hjob : Decodes [] (.ok ⟨[], none, ⟨[], _⟩⟩) := .decoded hnone rfl
    exact .generated hjob rfl rfl
  obtain ⟨-, herror, -, hexit⟩ := run_all_or_nothing files unknown.encode
  obtain ⟨-, -, hok, -⟩ := run_all_or_nothing files []
  obtain ⟨hdelivers, hread⟩ := hok _ hresponse
  have hgives : GivesUp [] env := .inr ⟨List.not_mem_nil, e, hunknown⟩
  rw [hempty] at hread
  refine ⟨herror e hunknown {}, ((hexit [] none rfl).1.mpr hgives).1, ?_, hread (by decide)⟩
  rw [(hdelivers { room := some 1 }).written, hempty]
  rfl

end SwiftConnections
