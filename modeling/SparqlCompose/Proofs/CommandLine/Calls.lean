import SparqlCompose.Proofs.CommandLine.Parameters
import SparqlCompose.Proofs.CommandLine.Printing
import SparqlCompose.Proofs.Pipeline.Calling
import SparqlCompose.Proofs.Pipeline.Standard
import SparqlCompose.Yaml.Document

namespace SparqlCompose.CommandLine

def levelNames : List String :=
  ["CRITICAL", "FATAL", "ERROR", "WARNING", "WARN", "INFO", "DEBUG", "NOTSET"]

/-- The configuration of a path is there and valid, and gives a pipeline. -/
structure Ready (w : World) (path? : Option RawText) (config : Config) (d : Draft) (p : Pipeline) :
    Prop where
  obtained : Config.obtain w.yaml w.files w.environment path? = .ok config
  valid : config.validate = .ok ()
  level : ∃ level ∈ levelNames, config.logLevel = .ok (.ofString level)
  loaded : ∃ d', (Pipeline.ofConfig config).run d = .ok p d'

/-- An item is malformed, the module or the method is unknown, or the method does not accept the
parameters that the items give. -/
def Refused (p : Pipeline) (items : List RawText) (name method : RawText) : Prop :=
  (∃ item ∈ items, Malformed item) ∨ ¬ p.Registers name ∨ ¬ p.Lists name method ∨
    ∃ r : Request, r.Carries items ∧ Provider.Declines method r

/-- The failure that a refused call comes to: that of the first check that it does not pass. -/
inductive Refusal (p : Pipeline) (items : List RawText) (name method : RawText) : Failure → Prop
  | item {before after : List RawText} {item : RawText} (split : items = before ++ item :: after)
      (formed : ∀ x ∈ before, ¬ Malformed x) (malformed : Malformed item) :
      Refusal p items name method (.option item)
  | unknownModule (formed : ∀ item ∈ items, ¬ Malformed item) (unknown : ¬ p.Registers name) :
      Refusal p items name method (.unknownMethod (.unknownModule name))
  | unknownMethod (formed : ∀ item ∈ items, ¬ Malformed item) (registered : p.Registers name)
      (unlisted : ¬ p.Lists name method) :
      Refusal p items name method (.unknownMethod (.unknownMethod name method))
  | parameter (formed : ∀ item ∈ items, ¬ Malformed item) (listed : p.Lists name method)
      {r : Request} (carries : r.Carries items) (declines : Provider.Declines method r)
      {parameter : String × String} (among : parameter ∈ Provider.regionParameters)
      (lacks : r.Lacks parameter.1) :
      Refusal p items name method (.parameter parameter.1 parameter.2)

/-- The method reads a region from the parameters that the items give, and it has surrogates. -/
def Garbled (items : List RawText) (method : RawText) : Prop :=
  ∃ r : Request, r.Carries items ∧ Provider.Garbles method r

namespace Ending

structure Reports (e : Ending) (cause : Failure) : Prop where
  status : e.status = 2
  output : e.output = RawText.ofString ""
  errors : e.errors = "Error: " ++ cause.message ++ "\n"

/-- The ending of a run that shows an answer, as a table where one is wanted. -/
structure Presents (e : Ending) (w : World) (response : Response) (table : Bool) : Prop where
  status : e.status = if response.success then 0 else 1
  output : ∃ text, Shows w response table text ∧ e.output = text ++ RawText.ofString "\n"
  failure : response.success = false → e.output = failureText ++ RawText.ofString "\n"
  errors : e.errors = ""

theorem reports_refused (cause : Failure) : (Ending.refused cause).Reports cause :=
  ⟨rfl, rfl, rfl⟩

end Ending

section Presenting

variable {w : World} {method : RawText} {reply : Reply} {response : Response} {table : Bool}
  {text : RawText}

theorem presents_finished (fits : Provider.Fits method reply response)
    (shown : showResponse w response table = .ok text) (shows : Shows w response table text) :
    (Ending.finished (if response.success then 0 else 1) (text ++ RawText.ofString "\n")
      "").Presents w response table := by
  refine ⟨rfl, ⟨text, shows, rfl⟩, fun failed => ?_, rfl⟩
  rw [fits.bare failed, showResponse_failed] at shown
  cases shown
  rfl

def presenting (w : World) (response : Response) (table : Bool) : Act Ending := do
  let shown ← Act.ofExcept (showResponse w response table)
  Act.ofExcept (print w (if response.success then 0 else 1) shown)

theorem run_presenting (shown : showResponse w response table = .ok text) (st : Session) :
    (presenting w response table).run st =
      (Act.ofExcept (print w (if response.success then 0 else 1) text)).run st := by
  rw [presenting, shown]
  exact Act.run_bind_ok (Act.run_ofExcept_ok _ _)

theorem presenting_cases (w : World) (fits : Provider.Fits method reply response) (table : Bool)
    (st : Session) :
    (Encodes w response table ∧ ∃ ending, (presenting w response table).run st = .ok ending st ∧
      ending.Presents w response table) ∨
    (¬ Encodes w response table ∧
      (presenting w response table).run st = .error .unencodable st) := by
  rcases shows_cases w fits.plain table with
    ⟨entries, tabled, shown⟩ | ⟨none, s, shown, shows, encoded⟩
  · rw [run_presenting shown]
    by_cases encoded : w.prints (w.tabulate (.entries entries)) = true
    · rw [print_eq_ok encoded]
      exact .inl ⟨fun _ tabled' => tabled.unique tabled' ▸ encoded, _, rfl,
        presents_finished fits shown (.table tabled)⟩
    · rw [print_eq_error encoded]
      exact .inr ⟨fun encodes => encoded (encodes entries tabled), rfl⟩
  · rw [run_presenting shown, print_eq_ok encoded]
    exact .inl ⟨fun entries tabled => absurd tabled (none entries), _, rfl,
      presents_finished fits shown shows⟩

end Presenting

section Calling

variable {w : World} {p : Pipeline} {ps : List Provider} {items : List RawText}
  {name method : RawText}

theorem isReported_of_refusal {cause : Failure} (refusal : Refusal p items name method cause) :
    isReported cause = true := by
  cases refusal <;> rfl

def commanding (w : World) (p : Pipeline) (items : List RawText) (command : Command) :
    Act Ending := do
  let parameters ← Act.ofExcept (readParameters [] items)
  runCommand w p (requestWith parameters) command

theorem run_commanding {parameters : List (RawText × RawText)}
    (read : readParameters [] items = .ok parameters) (command : Command) (st : Session) :
    (commanding w p items command).run st =
      (runCommand w p (requestWith parameters) command).run st := by
  rw [commanding, read]
  exact Act.run_bind_ok (Act.run_ofExcept_ok _ _)

theorem run_call_error {r : Request} {failure : Failure} {st st' : Session}
    (failed : (p.invoke name method r).run st = .error failure st') (table : Bool) :
    (runCommand w p r (.call name method table)).run st = .error failure st' :=
  Act.run_bind_error failed

theorem run_call_ok {r : Request} {response : Response} {st st' : Session}
    (answered : (p.invoke name method r).run st = .ok response st') (table : Bool) :
    (runCommand w p r (.call name method table)).run st = (presenting w response table).run st' :=
  Act.run_bind_ok answered

def ComesToRefusal (w : World) (p : Pipeline) (items : List RawText) (name method : RawText)
    (table : Bool) : Prop :=
  ∀ st : Session, ∃ d cause, Refusal p items name method cause ∧
    (commanding w p items (.call name method table)).run st = .error cause (st.withDraft d)

def ComesToNothing (w : World) (p : Pipeline) (items : List RawText) (name method : RawText)
    (table : Bool) : Prop :=
  ∀ st : Session, ∃ d,
    (commanding w p items (.call name method table)).run st = .error .unencodable (st.withDraft d)

def ComesToAnswer (w : World) (p : Pipeline) (items : List RawText) (name method : RawText)
    (table : Bool) : Prop :=
  ∃ (r : Request) (call : Call), r.Carries items ∧ ∀ reply : Reply, ¬ reply.Mute →
    (∀ text, reply.Answers text → Json.read text ≠ .error .tooDeep) →
    ∃ response, p.Answers name method r call reply response ∧
      Provider.Fits method reply response ∧
      ∀ (st : Session) (later : List Reply), st.replies = reply :: later → ∃ d,
        (commanding w p items (.call name method table)).run st =
          (presenting w response table).run ((st.sent call later).withDraft d)

theorem call_cases (w : World) (h : p.OfDomains ps) (valid : p.services.config.validate = .ok ())
    (items : List RawText) (name method : RawText) (table : Bool) :
    (Refused p items name method ∧ ComesToRefusal w p items name method table) ∨
    (¬ Refused p items name method ∧ Garbled items method ∧
      ComesToNothing w p items name method table) ∨
    (¬ Refused p items name method ∧ ¬ Garbled items method ∧
      ComesToAnswer w p items name method table) := by
  -- The checks come in this order: the items, the module, the method and then its parameters.
  rcases Request.carried_cases items with
    ⟨formed, parameters, read, carries⟩ | ⟨before, item, after, split, formed, malformed, failed⟩
  case inr =>
    refine .inl ⟨.inl ⟨item, by simp [split], malformed⟩, fun st => ?_⟩
    refine ⟨st.draft, _, .item split formed malformed, ?_⟩
    rw [commanding, failed]
    rfl
  rcases Pipeline.invoke_cases h.nodup_names name method with
    ⟨unknown, refuses⟩ | ⟨registered, unlisted, refuses⟩ | ⟨m, member, named, act, has, runs⟩
  · refine .inl ⟨.inr (.inl unknown), fun st => ⟨st.draft, _, .unknownModule formed unknown, ?_⟩⟩
    rw [run_commanding read]
    exact run_call_error (by rw [refuses]; rfl) table
  · refine .inl ⟨.inr (.inr (.inl unlisted)), fun st =>
      ⟨st.draft, _, .unknownMethod formed registered unlisted, ?_⟩⟩
    rw [run_commanding read]
    exact run_call_error (by rw [refuses]; rfl) table
  have listed : p.Lists name method := Pipeline.lists_iff.mpr ⟨m, member, named, act, has⟩
  have accepted (accepts : ¬ Provider.Declines method (requestWith parameters)) :
      ¬ Refused p items name method := by
    rintro (⟨item, among, malformed⟩ | unknown | unlisted | ⟨r, carries', declines⟩)
    · exact formed item among malformed
    · exact unknown ⟨m, member, named⟩
    · exact unlisted listed
    · exact accepts ((Provider.declines_congr (carries'.parameter?_eq carries)).mp declines)
  rcases h.invoke_listed valid member named has (textual_requestWith parameters)
      (runs (requestWith parameters)) with
    ⟨declines, refuses⟩ | ⟨garbles, breaks⟩ | ⟨accepts, clean, call, answers⟩
  · refine .inl ⟨.inr (.inr (.inr ⟨_, carries, declines⟩)), fun st => ?_⟩
    obtain ⟨d, parameter, among, lacks, refused⟩ := refuses st
    refine ⟨d, _, .parameter formed listed carries declines among lacks, ?_⟩
    rw [run_commanding read]
    exact run_call_error refused table
  · refine .inr (.inl ⟨accepted fun declines => garbles.2.1 declines.2, ⟨_, carries, garbles⟩,
      fun st => ?_⟩)
    obtain ⟨d, broke⟩ := breaks st
    exact ⟨d, by rw [run_commanding read, run_call_error broke table]⟩
  · refine .inr (.inr ⟨accepted accepts, ?_, requestWith parameters, call, carries, ?_⟩)
    · rintro ⟨r, carries', garbles⟩
      exact clean ((Provider.garbles_congr (carries'.parameter?_eq carries)).mp garbles)
    · intro reply heard shallow
      obtain ⟨response, reported, once, fits⟩ := answers reply heard shallow
      refine ⟨response, reported, fits, fun st later given => ?_⟩
      obtain ⟨d, answered⟩ := once st later given
      exact ⟨d, by rw [run_commanding read, run_call_ok answered table]⟩

end Calling

section Running

variable {w : World} {arguments : List RawText} {i : Invocation} {config : Config} {p : Pipeline}
  {st st' : Session}

theorem Ready.exists_draft (ready : Ready w i.config config st.draft p) :
    ∃ d, (runInvocation w i).run st =
      (commanding w p i.parameters i.command).run (st.withDraft d) := by
  obtain ⟨level, -, leveled⟩ := ready.level
  obtain ⟨d, loaded⟩ := ready.loaded
  refine ⟨d, ?_⟩
  have assembled : (Act.edit (Pipeline.ofConfig config)).run st = .ok p (st.withDraft d) := by
    rw [Act.run_edit, loaded]
    rfl
  unfold runInvocation
  rw [ready.obtained]
  refine (Act.run_bind_ok (Act.run_ofExcept_ok _ _)).trans ?_
  rw [ready.valid]
  refine (Act.run_bind_ok (Act.run_ofExcept_ok _ _)).trans ?_
  rw [leveled]
  refine (Act.run_bind_ok (Act.run_ofExcept_ok _ _)).trans ?_
  exact Act.run_bind_ok assembled

theorem Ready.call_cases {path? : Option RawText} {d : Draft} (ready : Ready w path? config d p)
    (items : List RawText) (name method : RawText) (table : Bool) :
    (Refused p items name method ∧ ComesToRefusal w p items name method table) ∨
    (¬ Refused p items name method ∧ Garbled items method ∧
      ComesToNothing w p items name method table) ∨
    (¬ Refused p items name method ∧ ¬ Garbled items method ∧
      ComesToAnswer w p items name method table) := by
  obtain ⟨d', loaded⟩ := ready.loaded
  obtain ⟨⟨ps, domains⟩, configured⟩ := Pipeline.exists_ofDomains ready.valid loaded
  exact CommandLine.call_cases w domains (configured ▸ ready.valid) items name method table

theorem run_of_ok (accepted : Invocation.ofArguments arguments = .ok i) {ending : Ending}
    (ended : (runInvocation w i).run st = .ok ending st') :
    (run w arguments).run st = .ok ending st' := by
  rw [run, accepted]
  show EStateM.tryCatch (runInvocation w i) _ st = _
  change runInvocation w i st = _ at ended
  rw [EStateM.tryCatch, ended]

theorem run_of_error (accepted : Invocation.ofArguments arguments = .ok i) {cause : Failure}
    (failed : (runInvocation w i).run st = .error cause st') :
    (run w arguments).run st =
      if isReported cause then .ok (.refused cause) st' else .error cause st' := by
  rw [run, accepted]
  show EStateM.tryCatch (runInvocation w i) _ st = _
  change runInvocation w i st = _ at failed
  rw [EStateM.tryCatch, failed]
  show (if isReported cause then pure (.refused cause) else throw cause : Act Ending).run _ = _
  split <;> rfl

/-- A call that is refused sends nothing, prints nothing and ends with status two and a report of the
fault. A call with surrogates in its region is cut short before anything is sent. Every other call
sends one request, and of every reply it ends with status zero or one, as the method reports success
or failure, and the answer printed; but a table that cannot be encoded cuts it short. -/
theorem call_status_agrees (accepted : Invocation.ofArguments arguments = .ok i)
    {name method : RawText} {table : Bool} (command : i.command = .call name method table)
    (ready : Ready w i.config config st.draft p) :
    (Refused p i.parameters name method →
      ∃ ending st', (run w arguments).run st = .ok ending st' ∧
        st'.calls = st.calls ∧ st'.replies = st.replies ∧
        ∃ cause, Refusal p i.parameters name method cause ∧ ending.Reports cause) ∧
    (¬ Refused p i.parameters name method → Garbled i.parameters method →
      ∃ st', (run w arguments).run st = .error .unencodable st' ∧
        st'.calls = st.calls ∧ st'.replies = st.replies) ∧
    (¬ Refused p i.parameters name method → ¬ Garbled i.parameters method →
      ∃ (r : Request) (call : Call), r.Carries i.parameters ∧
        ∀ (reply : Reply) (later : List Reply), st.replies = reply :: later → ¬ reply.Mute →
          (∀ text, reply.Answers text → Json.read text ≠ .error .tooDeep) →
          ∃ st' response, st'.calls = st.calls.push call ∧ st'.replies = later ∧
            p.Answers name method r call reply response ∧ Provider.Fits method reply response ∧
            (Encodes w response table → ∃ ending, (run w arguments).run st = .ok ending st' ∧
              ending.Presents w response table) ∧
            (¬ Encodes w response table →
              (run w arguments).run st = .error .unencodable st')) := by
  obtain ⟨d, started⟩ := ready.exists_draft
  rw [command] at started
  rcases ready.call_cases i.parameters name method table with
    ⟨refused, refuses⟩ | ⟨accepts, garbled, breaks⟩ | ⟨accepts, clean, r, call, carries, answers⟩
  · refine ⟨fun _ => ?_, fun accepts => absurd refused accepts, fun accepts => absurd refused accepts⟩
    obtain ⟨d₁, cause, refusal, failed⟩ := refuses (st.withDraft d)
    have ran := run_of_error accepted (started.trans failed)
    rw [if_pos (isReported_of_refusal refusal)] at ran
    exact ⟨_, _, ran, rfl, rfl, cause, refusal, Ending.reports_refused cause⟩
  · refine ⟨fun refused => absurd refused accepts, fun _ _ => ?_, fun _ clean => absurd garbled clean⟩
    obtain ⟨d₁, broke⟩ := breaks (st.withDraft d)
    exact ⟨_, run_of_error accepted (started.trans broke), rfl, rfl⟩
  · refine ⟨fun refused => absurd refused accepts, fun _ garbled => absurd garbled clean,
      fun _ _ => ⟨r, call, carries, ?_⟩⟩
    intro reply later given heard shallow
    obtain ⟨response, reported, fits, ends⟩ := answers reply heard shallow
    obtain ⟨d₁, reaches⟩ := ends (st.withDraft d) later given
    refine ⟨((st.withDraft d).sent call later).withDraft d₁, response, rfl, rfl, reported, fits, ?_⟩
    rcases presenting_cases w fits table (((st.withDraft d).sent call later).withDraft d₁) with
      ⟨encodes, ending, ended, presents⟩ | ⟨fails, broke⟩
    · refine ⟨fun _ => ⟨ending, ?_, presents⟩, fun fails => absurd encodes fails⟩
      exact run_of_ok accepted (started.trans (reaches.trans ended))
    · refine ⟨fun encodes => absurd encodes fails, fun _ => ?_⟩
      exact run_of_error accepted (started.trans (reaches.trans broke))

end Running

def plainWorld : World where
  files := ⟨"/w", "/h", fun _ => .absent⟩
  environment := []
  yaml := Yaml.reader
  tabulate := Table.text
  prints := fun r => r.toString?.isSome
  prints_ascii := fun s _ => RawText.isSome_toString?_ofString s

def builtinPipeline : Pipeline :=
  ⟨[Provider.water.toModule, Provider.air.toModule],
    ⟨.builtin [], false, Library.standard.turtle⟩⟩

theorem loaded_builtin :
    ∃ d', (Pipeline.ofConfig (.builtin [])).run .empty = .ok builtinPipeline d' := by
  have listed : (Config.builtin []).modules = .ok (Config.standardModules.map .text) := rfl
  have provided : Pipeline.servicesOf Library.standard.turtle (.builtin []) =
      .ok builtinPipeline.services := rfl
  have run := Pipeline.run_ofLibrary .empty .standard provided listed
  rw [Library.modulesFor_of_has Library.has_standardModules] at run
  rcases Pipeline.run_make builtinPipeline.modules builtinPipeline.services .empty with
    ⟨-, made⟩ | ⟨repeated, -⟩
  · exact ⟨_, run.trans made⟩
  · exact absurd (by decide) repeated

theorem ready_builtin : Ready plainWorld none (.builtin []) .empty builtinPipeline where
  obtained := rfl
  valid := Config.valid_builtin
  level := ⟨"INFO", by decide, congrArg Except.ok (by decide +kernel)⟩
  loaded := loaded_builtin

theorem lists_builtin {key : String} {act : Services → Request → Act Response}
    (has : (key, act) ∈ Provider.water.methods) :
    builtinPipeline.Lists "Water Data Provider" key :=
  Pipeline.lists_iff.mpr ⟨_, List.mem_cons_self, rfl, act, key, rfl, has⟩

theorem registers_builtin : builtinPipeline.Registers "Water Data Provider" :=
  ⟨_, List.mem_cons_self, rfl⟩

theorem not_refused_listing :
    ¬ Refused builtinPipeline [] "Water Data Provider" "query_for_data_sources" := by
  rintro (⟨item, ⟨⟩, -⟩ | unknown | unlisted | ⟨r, -, only, -⟩)
  · exact unknown registers_builtin
  · exact unlisted (lists_builtin (List.mem_cons_of_mem _ List.mem_cons_self))
  · exact absurd only (by decide)

theorem not_garbled_listing : ¬ Garbled [] "query_for_data_sources" := by
  rintro ⟨r, -, only, -⟩
  exact absurd only (by decide)

theorem refused_county :
    Refused builtinPipeline ["county=001"] "Water Data Provider" "get_site_counts" := by
  rcases Request.carried_cases ["county=001"] with
    ⟨-, parameters, read, carries⟩ | ⟨_, _, _, -, -, -, failed⟩
  · change Except.ok [(RawText.ofString "county", RawText.ofString "001")] = _ at read
    cases read
    exact .inr (.inr (.inr ⟨_, carries, rfl, .inl ⟨_, rfl, nofun⟩, .inr (.inl rfl)⟩))
  · change Except.ok [(RawText.ofString "county", RawText.ofString "001")] = _ at failed
    cases failed

/-- With what is built in, a call succeeds or fails as the endpoint replies, and is refused for its
parameters. -/
theorem call_status_agrees_builtin :
    (∃ ending st', (run plainWorld
          ["call", "Water Data Provider", "query_for_data_sources"]).run
            (.start [.answer 200 (some Provider.oneSource)]) = .ok ending st' ∧
        st'.calls.size = 1 ∧ ending.status = 0) ∧
      (∃ ending st', (run plainWorld
          ["call", "Water Data Provider", "query_for_data_sources", "--table"]).run
            (.start [.failed "timed out"]) = .ok ending st' ∧
        st'.calls.size = 1 ∧ ending.status = 1 ∧
        ending.output = failureText ++ RawText.ofString "\n") ∧
      ∃ ending st', (run plainWorld
          ["-p", "county=001", "call", "Water Data Provider", "get_site_counts"]).run
            (.start []) = .ok ending st' ∧ st'.calls = #[] ∧ ending.status = 2 := by
  have listing : Invocation.ofArguments ["call", "Water Data Provider", "query_for_data_sources"] =
      .ok ⟨none, [], .call "Water Data Provider" "query_for_data_sources" false⟩ := rfl
  have tabling : Invocation.ofArguments
      ["call", "Water Data Provider", "query_for_data_sources", "--table"] =
        .ok ⟨none, [], .call "Water Data Provider" "query_for_data_sources" true⟩ := rfl
  have counting : Invocation.ofArguments
      ["-p", "county=001", "call", "Water Data Provider", "get_site_counts"] =
        .ok ⟨none, ["county=001"], .call "Water Data Provider" "get_site_counts" false⟩ := rfl
  have ready (replies : List Reply) : Ready plainWorld none (.builtin [])
      (Session.start replies).draft builtinPipeline := ready_builtin
  refine ⟨?_, ?_, ?_⟩
  · obtain ⟨members, lists⟩ := Provider.lists_oneSource
    obtain ⟨-, -, answers⟩ := call_status_agrees listing rfl (ready _)
    obtain ⟨r, call, -, answers⟩ := answers not_refused_listing not_garbled_listing
    obtain ⟨st', response, sent, -, -, fits, ends, -⟩ :=
      answers (.answer 200 (some Provider.oneSource)) [] rfl (by rintro ⟨_, ⟨⟩, -⟩) (by
        rintro _ ⟨_, ⟨⟩, -⟩
        exact Provider.shallow_oneSource)
    obtain ⟨ending, ran, presents⟩ := ends fun _ tabled => absurd tabled.1 Bool.false_ne_true
    have success := fits.success_iff.mpr (.inl ⟨rfl, _, lists⟩)
    refine ⟨ending, st', ran, by rw [sent]; rfl, ?_⟩
    rw [presents.status, if_pos success]
  · obtain ⟨-, -, answers⟩ := call_status_agrees tabling rfl (ready _)
    obtain ⟨r, call, -, answers⟩ := answers not_refused_listing not_garbled_listing
    obtain ⟨st', response, sent, -, -, fits, ends, -⟩ :=
      answers (.failed "timed out") [] rfl nofun nofun
    have failure : response.success = false := by
      rw [Bool.eq_false_iff, ne_eq, fits.success_iff, Reply.serves_sources_iff]
      rintro ⟨_, _, _, ⟨_, ⟨⟩, -⟩, -⟩
    obtain ⟨ending, ran, presents⟩ := ends (fits.bare failure ▸ encodes_failed plainWorld true)
    refine ⟨ending, st', ran, by rw [sent]; rfl, ?_, presents.failure failure⟩
    rw [presents.status, failure]
    rfl
  · obtain ⟨refuses, -⟩ := call_status_agrees counting rfl (ready [])
    obtain ⟨ending, st', ran, unsent, -, cause, -, reports⟩ := refuses refused_county
    exact ⟨ending, st', ran, unsent, reports.status⟩

def undecodableCounty : RawText := RawText.ofString "county=" ++ (⟨[.ofNat 0xDCFF]⟩ : RawText)

theorem carried_undecodableCounty :
    (∀ item ∈ [undecodableCounty, "stateCode=08"], ¬ Malformed item) ∧
      ∃ r : Request, r.Carries [undecodableCounty, "stateCode=08"] ∧
        r.parameter? "county" = some (.text ⟨[.ofNat 0xDCFF]⟩) ∧
        r.parameter? "stateCode" = some (.text "08") := by
  rcases Request.carried_cases [undecodableCounty, "stateCode=08"] with
    ⟨formed, parameters, read, carries⟩ | ⟨_, _, _, -, -, -, failed⟩
  · change Except.ok [(RawText.ofString "county", ⟨[.ofNat 0xDCFF]⟩),
      (RawText.ofString "stateCode", RawText.ofString "08")] = _ at read
    cases read
    exact ⟨formed, _, carries, rfl, rfl⟩
  · change Except.ok [(RawText.ofString "county", (⟨[.ofNat 0xDCFF]⟩ : RawText)),
      (RawText.ofString "stateCode", RawText.ofString "08")] = _ at failed
    cases failed

theorem garbles_undecodableCounty {r : Request}
    (county : r.parameter? "county" = some (.text ⟨[.ofNat 0xDCFF]⟩))
    (stateCode : r.parameter? "stateCode" = some (.text "08")) :
    Provider.Garbles "get_site_counts" r := by
  refine ⟨rfl, fun half => ?_, fun prints => ?_⟩
  · rcases half.2 with lacks | lacks
    · rw [← Request.isMissing_iff, county] at lacks
      cases lacks
    · rw [← Request.isMissing_iff, stateCode] at lacks
      exact absurd lacks (by decide)
  · obtain ⟨text, is⟩ := prints "county" List.mem_cons_self _ county
    have same := RawText.toString?_eq_some_iff.mpr (Option.some.inj is)
    cases same

def undecodableArguments : List RawText :=
  ["-p", undecodableCounty, "-p", "stateCode=08", "call", "Water Data Provider", "get_site_counts"]

def undecodableCall : Invocation :=
  ⟨none, [undecodableCounty, "stateCode=08"], .call "Water Data Provider" "get_site_counts" false⟩

theorem comesToNothing_undecodableCall : ComesToNothing plainWorld builtinPipeline
    undecodableCall.parameters "Water Data Provider" "get_site_counts" false := by
  obtain ⟨formed, r, carries, county, stateCode⟩ := carried_undecodableCounty
  have garbles := garbles_undecodableCounty county stateCode
  rcases ready_builtin.call_cases undecodableCall.parameters "Water Data Provider"
      "get_site_counts" false with ⟨refused, -⟩ | ⟨-, -, nothing⟩ | ⟨-, clean, -⟩
  · rcases refused with ⟨item, among, malformed⟩ | unknown | unlisted | ⟨r', carries', declines⟩
    · exact absurd malformed (formed item among)
    · exact absurd registers_builtin unknown
    · exact absurd (lists_builtin List.mem_cons_self) unlisted
    · have half := (Provider.declines_congr (carries'.parameter?_eq carries)).mp declines
      exact absurd half.2 garbles.2.1
  · exact nothing
  · exact absurd ⟨r, carries, garbles⟩ clean

/-- A county that no query can hold ends a call by a failure that is not reported, before anything is
sent. -/
theorem undecodable_county_escapes :
    Invocation.ofArguments undecodableArguments = .ok undecodableCall ∧
    Ready plainWorld undecodableCall.config (.builtin []) .empty builtinPipeline ∧
    ∃ st', (run plainWorld undecodableArguments).run
        (.start [.answer 200 (some "\x7b\"results\": \x7b\"bindings\": []\x7d\x7d")]) =
      .error .unencodable st' ∧ st'.calls = #[] := by
  have accepted : Invocation.ofArguments undecodableArguments = .ok undecodableCall := rfl
  refine ⟨accepted, ready_builtin, ?_⟩
  generalize [Reply.answer 200 _] = replies
  have ready : Ready plainWorld undecodableCall.config (.builtin []) (Session.start replies).draft
      builtinPipeline := ready_builtin
  obtain ⟨d, started⟩ := ready.exists_draft
  obtain ⟨d', broke⟩ := comesToNothing_undecodableCall ((Session.start replies).withDraft d)
  exact ⟨_, run_of_error accepted (started.trans broke), rfl⟩

end SparqlCompose.CommandLine
