import SparqlCompose.Proofs.Config.Checks
import SparqlCompose.Proofs.Config.Settings

namespace SparqlCompose.Config

def UrlValid (c : Config) : Prop := ∃ url, c.urlInEffect = .text url ∧ IsWebAddress url

structure EndpointValid (c : Config) : Prop where
  url : c.UrlValid
  method : ∃ name, c.methodInEffect? = some name ∧ (name = "GET" ∨ name = "POST")
  timeout : ∃ n, c.timeoutInEffect? = some (.integer n) ∧ 0 < n

structure Valid (c : Config) : Prop where
  endpoint : c.EndpointValid
  modules : NamesModules c.modulesInEffect
  strict : ∃ b, c.strictInEffect = .boolean b

/-- The address is valid, and the name of the method cannot be written. -/
def Nameless (c : Config) : Prop := c.UrlValid ∧ c.methodInEffect? = none

def Reports (x : Except Failure Unit) : Prop :=
  x = .ok () ∨ ∃ fault, x = .error (.configuration fault)

def stage {α : Type} (read : Except Failure α) (check : α → Except ConfigFault Unit) :
    Except Failure Unit := do
  refusing (check (← read))

def moduleStage (c : Config) : Except Failure Unit := do checkModules (← c.modules)

theorem validate_eq (c : Config) : c.validate = (do
    stage c.url checkUrl
    stage c.method checkMethod
    stage c.timeout checkTimeout
    c.moduleStage
    stage c.strict checkStrict) := by
  simp only [validate, stage, moduleStage, bind_assoc]

theorem Reports.exists_fault {e : Failure} (reports : Reports (.error e)) :
    ∃ fault, e = .configuration fault := by
  rcases reports with same | ⟨fault, same⟩
  · cases same
  · exact ⟨fault, Except.error.inj same⟩

theorem stage_cases {α : Type} {read : Except Failure α} {a : α} (is : read = .ok a)
    (check : α → Except ConfigFault Unit) (rest : Except Failure Unit) :
    check a = .ok () ∧ (do stage read check; rest) = rest ∨
      check a ≠ .ok () ∧ ∃ fault, (do stage read check; rest) = .error (.configuration fault) := by
  rw [stage, is]
  dsimp only [bind, Except.bind]
  cases check a with
  | ok => exact .inl ⟨rfl, rfl⟩
  | error fault => exact .inr ⟨nofun, fault, rfl⟩

theorem stage_of_error {α : Type} {read : Except Failure α} {e : Failure}
    (failed : read = .error e) (check : α → Except ConfigFault Unit) (rest : Except Failure Unit) :
    (do stage read check; rest) = .error e := by
  rw [stage, failed]
  rfl

section Outcomes

variable {c : Config} {entries : List (Value × Value)} (is : c.root = .mapping entries)

include is

theorem endpoint_cases (shaped : ¬ c.Shapeless "endpoint") (rest : Except Failure Unit) :
    c.EndpointValid ∧ (do
        stage c.url checkUrl
        stage c.method checkMethod
        stage c.timeout checkTimeout
        rest) = rest ∨
      c.Nameless ∧ (do
        stage c.url checkUrl
        stage c.method checkMethod
        stage c.timeout checkTimeout
        rest) = .error .digits ∨
      ¬ c.EndpointValid ∧ ¬ c.Nameless ∧ ∃ fault, (do
        stage c.url checkUrl
        stage c.method checkMethod
        stage c.timeout checkTimeout
        rest) = .error (.configuration fault) := by
  rcases stage_cases (url_eq is shaped) checkUrl _ with ⟨url, goesOn⟩ | ⟨faulty, stops⟩
  case inr =>
    have invalid : ¬ c.UrlValid := fun valid => faulty ((checkUrl_eq_ok_iff _).mpr valid)
    exact .inr (.inr ⟨fun valid => invalid valid.url, fun nameless => invalid nameless.1, stops⟩)
  have url : c.UrlValid := (checkUrl_eq_ok_iff _).mp url
  rw [goesOn]
  have reads := method_eq is shaped
  cases named : c.methodInEffect? with
  | none =>
    rw [named] at reads
    exact .inr (.inl ⟨⟨url, named⟩, stage_of_error reads _ _⟩)
  | some name =>
  rw [named] at reads
  have plain : ¬ c.Nameless := fun nameless => by
    have silent := nameless.2
    rw [named] at silent
    cases silent
  rcases stage_cases reads checkMethod _ with ⟨method, goesOn⟩ | ⟨faulty, stops⟩
  case inr =>
    refine .inr (.inr ⟨fun valid => faulty ((checkMethod_eq_ok_iff _).mpr ?_), plain, stops⟩)
    obtain ⟨name', same, known⟩ := valid.method
    rw [named] at same
    cases same
    exact known
  rw [goesOn]
  cases inEffect : c.timeoutInEffect? with
  | none =>
    obtain ⟨fault, failed⟩ := timeout_of_none inEffect
    refine .inr (.inr ⟨fun valid => ?_, plain, fault, stage_of_error failed _ _⟩)
    obtain ⟨n, same, -⟩ := valid.timeout
    rw [inEffect] at same
    cases same
  | some v =>
    rcases stage_cases (timeout_of_some is shaped inEffect) checkTimeout rest with
      ⟨timeout, goesOn⟩ | ⟨faulty, stops⟩
    · obtain ⟨n, rfl, positive⟩ := (checkTimeout_eq_ok_iff v).mp timeout
      exact .inl ⟨⟨url, ⟨name, named, (checkMethod_eq_ok_iff _).mp method⟩, n, inEffect, positive⟩,
        goesOn⟩
    · refine .inr (.inr ⟨fun valid => faulty ((checkTimeout_eq_ok_iff v).mpr ?_), plain, stops⟩)
      obtain ⟨n, same, positive⟩ := valid.timeout
      rw [inEffect] at same
      exact ⟨n, Option.some.inj same, positive⟩

inductive ModuleVerdict (v : Value) : Except Failure Unit → Prop
  | unlisted (unlisted : Unlisted v) : ModuleVerdict v (.error .kind)
  | unwritable (unwritable : Unwritable v) : ModuleVerdict v (.error .digits)
  | faulty (listed : ¬ Unlisted v) (writable : ¬ Unwritable v)
      (faulty : ¬ (NamesModules v ∨ Mistaken v)) (fault : ConfigFault) :
      ModuleVerdict v (.error (.configuration fault))
  | passed (passes : NamesModules v ∨ Mistaken v) : ModuleVerdict v (.ok ())

theorem moduleVerdict : ModuleVerdict c.modulesInEffect c.moduleStage := by
  rw [moduleStage, modules_eq is]
  rcases listed_cases c.modulesInEffect with ⟨unlisted, fails⟩ | ⟨items, lists⟩
  · rw [fails]
    exact .unlisted unlisted
  have named : checkModules items = .ok () ↔
      NamesModules c.modulesInEffect ∨ Mistaken c.modulesInEffect := by
    rw [checkModules_eq_ok_iff, ← listed_eq_ok_iff]
    simp only [lists, Except.ok.injEq]
  rw [bind_of_eq_ok lists]
  rcases checkModules_cases lists with
    passes | ⟨unwritable, failed⟩ | ⟨writable, faulty, fault, failed⟩
  · rw [passes]
    exact .passed (named.mp passes)
  · rw [failed]
    exact .unwritable unwritable
  · rw [failed]
    refine .faulty (fun unlisted => ?_) writable (mt named.mpr faulty) fault
    rw [listed_of_unlisted unlisted] at lists
    cases lists

theorem strict_cases (shaped : ¬ c.Shapeless "app") :
    (∃ b, c.strictInEffect = .boolean b) ∧ stage c.strict checkStrict = .ok () ∨
      (¬ ∃ b, c.strictInEffect = .boolean b) ∧
        ∃ fault, stage c.strict checkStrict = .error (.configuration fault) := by
  have last : stage c.strict checkStrict = (do stage c.strict checkStrict; .ok ()) := by
    cases stage c.strict checkStrict <;> rfl
  rw [last, ← checkStrict_eq_ok_iff]
  exact stage_cases (strict_eq is shaped) checkStrict (.ok ())

end Outcomes

/-- What the check of a configuration comes to: the first thing that is amiss ends it. -/
inductive Verdict (c : Config) : Except Failure Unit → Prop
  | endpointShapeless (shapeless : c.Shapeless "endpoint") : Verdict c (.error .unsupported)
  | nameless (shaped : ¬ c.Shapeless "endpoint") (nameless : c.Nameless) :
      Verdict c (.error .digits)
  | endpointFaulty (shaped : ¬ c.Shapeless "endpoint") (named : ¬ c.Nameless)
      (faulty : ¬ c.EndpointValid) (fault : ConfigFault) :
      Verdict c (.error (.configuration fault))
  | modulesUnlisted (shaped : ¬ c.Shapeless "endpoint") (valid : c.EndpointValid)
      (unlisted : Unlisted c.modulesInEffect) : Verdict c (.error .kind)
  | modulesUnwritable (shaped : ¬ c.Shapeless "endpoint") (valid : c.EndpointValid)
      (unwritable : Unwritable c.modulesInEffect) : Verdict c (.error .digits)
  | modulesFaulty (shaped : ¬ c.Shapeless "endpoint") (valid : c.EndpointValid)
      (listed : ¬ Unlisted c.modulesInEffect) (writable : ¬ Unwritable c.modulesInEffect)
      (faulty : ¬ (NamesModules c.modulesInEffect ∨ Mistaken c.modulesInEffect))
      (fault : ConfigFault) : Verdict c (.error (.configuration fault))
  | appShapeless (shaped : ¬ c.Shapeless "endpoint") (valid : c.EndpointValid)
      (passes : NamesModules c.modulesInEffect ∨ Mistaken c.modulesInEffect)
      (shapeless : c.Shapeless "app") : Verdict c (.error .unsupported)
  | strictFaulty (shaped : ∀ part ∈ ["endpoint", "app"], ¬ c.Shapeless part)
      (valid : c.EndpointValid)
      (passes : NamesModules c.modulesInEffect ∨ Mistaken c.modulesInEffect)
      (faulty : ¬ ∃ b, c.strictInEffect = .boolean b) (fault : ConfigFault) :
      Verdict c (.error (.configuration fault))
  | passed (shaped : ∀ part ∈ ["endpoint", "app"], ¬ c.Shapeless part) (valid : c.EndpointValid)
      (passes : NamesModules c.modulesInEffect ∨ Mistaken c.modulesInEffect)
      (strict : ∃ b, c.strictInEffect = .boolean b) : Verdict c (.ok ())

theorem verdict_validate {c : Config} {entries : List (Value × Value)}
    (is : c.root = .mapping entries) : c.Verdict c.validate := by
  rw [validate_eq]
  by_cases shaped : c.Shapeless "endpoint"
  case pos =>
    rw [stage_of_error (url_of_shapeless is shaped)]
    exact .endpointShapeless shaped
  rcases endpoint_cases is shaped _ with
    ⟨valid, goesOn⟩ | ⟨nameless, stops⟩ | ⟨faulty, named, fault, stops⟩
  case inr.inl =>
    rw [stops]
    exact .nameless shaped nameless
  case inr.inr =>
    rw [stops]
    exact .endpointFaulty shaped named faulty fault
  rw [goesOn]
  have verdict := moduleVerdict is
  generalize c.moduleStage = modules at verdict ⊢
  cases verdict with
  | unlisted unlisted => exact .modulesUnlisted shaped valid unlisted
  | unwritable unwritable => exact .modulesUnwritable shaped valid unwritable
  | faulty listed writable faulty fault =>
    exact .modulesFaulty shaped valid listed writable faulty fault
  | passed passes =>
    show c.Verdict (stage c.strict checkStrict)
    by_cases shaped' : c.Shapeless "app"
    · rw [stage, strict_of_shapeless is shaped']
      exact .appShapeless shaped valid passes shaped'
    · have both : ∀ part ∈ ["endpoint", "app"], ¬ c.Shapeless part := by
        simpa using ⟨shaped, shaped'⟩
      rcases strict_cases is shaped' with ⟨strict, done⟩ | ⟨faulty, fault, stops⟩
      · rw [done]
        exact .passed both valid passes strict
      · rw [stops]
        exact .strictFaulty both valid passes faulty fault

theorem Nameless.not_valid {c : Config} (nameless : c.Nameless) : ¬ c.EndpointValid := by
  intro valid
  obtain ⟨name, named, -⟩ := valid.method
  rw [nameless.2] at named
  cases named

/-- The configurations with a fault that is not reported as one. -/
inductive Defective (c : Config) : Prop
  | endpoint (shapeless : c.Shapeless "endpoint")
  | nameless (nameless : c.Nameless)
  | unlisted (valid : c.EndpointValid) (unlisted : Unlisted c.modulesInEffect)
  | unwritable (valid : c.EndpointValid) (unwritable : Unwritable c.modulesInEffect)
  | app (valid : c.EndpointValid)
      (passes : NamesModules c.modulesInEffect ∨ Mistaken c.modulesInEffect)
      (shapeless : c.Shapeless "app")
  | mistaken (valid : c.EndpointValid) (mistaken : Mistaken c.modulesInEffect)
      (strict : ∃ b, c.strictInEffect = .boolean b)

theorem Verdict.sound_of_not_defective {c : Config} {result : Except Failure Unit}
    (verdict : c.Verdict result) (sound : ¬ c.Defective) :
    Reports result ∧ (result = .ok () ↔ c.Valid) := by
  cases verdict with
  | endpointShapeless shapeless => exact absurd (.endpoint shapeless) sound
  | nameless _ nameless => exact absurd (.nameless nameless) sound
  | endpointFaulty _ _ faulty fault =>
    exact ⟨.inr ⟨fault, rfl⟩, nofun, fun valid => absurd valid.endpoint faulty⟩
  | modulesUnlisted _ valid unlisted => exact absurd (.unlisted valid unlisted) sound
  | modulesUnwritable _ valid unwritable => exact absurd (.unwritable valid unwritable) sound
  | modulesFaulty _ _ _ _ faulty fault =>
    exact ⟨.inr ⟨fault, rfl⟩, nofun, fun valid => absurd (.inl valid.modules) faulty⟩
  | appShapeless _ valid passes shapeless => exact absurd (.app valid passes shapeless) sound
  | strictFaulty _ _ _ faulty fault =>
    exact ⟨.inr ⟨fault, rfl⟩, nofun, fun valid => absurd valid.strict faulty⟩
  | passed _ valid passes strict =>
    have named := passes.resolve_right fun mistaken => sound (.mistaken valid mistaken strict)
    exact ⟨.inl rfl, fun _ => ⟨valid, named, strict⟩, fun _ => rfl⟩

theorem Verdict.not_defective {c : Config} {result : Except Failure Unit}
    (verdict : c.Verdict result) (reports : Reports result) (accepts : result = .ok () → c.Valid) :
    ¬ c.Defective := by
  intro defective
  cases verdict with
  | endpointShapeless | nameless | modulesUnlisted | modulesUnwritable | appShapeless =>
    obtain ⟨fault, same⟩ := reports.exists_fault
    cases same
  | endpointFaulty shaped named faulty =>
    cases defective with
    | endpoint shapeless => exact shaped shapeless
    | nameless nameless => exact named nameless
    | unlisted valid | unwritable valid | app valid | mistaken valid => exact faulty valid
  | modulesFaulty shaped valid listed writable faulty =>
    cases defective with
    | endpoint shapeless => exact shaped shapeless
    | nameless nameless => exact nameless.not_valid valid
    | unlisted _ unlisted => exact listed unlisted
    | unwritable _ unwritable => exact writable unwritable
    | app _ passes => exact faulty passes
    | mistaken _ mistaken => exact faulty (.inr mistaken)
  | strictFaulty shaped valid passes faulty =>
    cases defective with
    | endpoint shapeless => exact shaped _ (by simp) shapeless
    | nameless nameless => exact nameless.not_valid valid
    | unlisted _ unlisted => exact (sound_of_passes passes).1 unlisted
    | unwritable _ unwritable => exact (sound_of_passes passes).2 unwritable
    | app _ _ shapeless => exact shaped _ (by simp) shapeless
    | mistaken _ _ strict => exact faulty strict
  | passed shaped valid passes =>
    cases defective with
    | endpoint shapeless => exact shaped _ (by simp) shapeless
    | nameless nameless => exact nameless.not_valid valid
    | unlisted _ unlisted => exact (sound_of_passes passes).1 unlisted
    | unwritable _ unwritable => exact (sound_of_passes passes).2 unwritable
    | app _ _ shapeless => exact shaped _ (by simp) shapeless
    | mistaken _ mistaken => exact mistaken.not_namesModules (accepts rfl).modules

/-- Validation accepts just the valid configurations and reports a fault of all others, exactly
unless the configuration is defective. What it comes to in any case follows the order of its
checks. -/
theorem valid_or_refused_iff {c : Config} {entries : List (Value × Value)}
    (is : c.root = .mapping entries) :
    ((Reports c.validate ∧ (c.validate = .ok () ↔ c.Valid)) ↔ ¬ c.Defective) ∧
      c.Verdict c.validate := by
  have verdict := verdict_validate is
  refine ⟨⟨?_, verdict.sound_of_not_defective⟩, verdict⟩
  rintro ⟨reports, accepts⟩
  exact verdict.not_defective reports accepts.mp

def limitedOutside : Config :=
  ⟨.mapping [(.text "endpoint", .mapping [(.text "timeout", .text "ten")]),
    (.text "modules", .null)], "c", [("SEMANTECO_ENDPOINT_TIMEOUT", " 7 ")]⟩

theorem valid_or_refused_iff_limitedOutside :
    limitedOutside.root = .mapping [(.text "endpoint", .mapping [(.text "timeout", .text "ten")]),
      (.text "modules", .null)] ∧ limitedOutside.validate = .ok () := by
  have post : Text.upper "POST" = "POST" := by decide +kernel
  have seven : Number.integerIn? " 7 " = some 7 := by decide +kernel
  have web : IsWebAddress standardUrl := ⟨"http://", .head _, by decide⟩
  have valid : limitedOutside.Valid :=
    ⟨⟨⟨standardUrl, rfl, web⟩, ⟨_, rfl, .inr post⟩, 7, congrArg (·.map Value.integer) seven,
      by decide⟩, .inl .null, false, rfl⟩
  have sound : ¬ limitedOutside.Defective := by
    intro defective
    cases defective with
    | endpoint shapeless =>
      obtain ⟨v, found, other⟩ := shapeless
      exact other _ (Option.some.inj found).symm
    | nameless nameless => exact nameless.not_valid valid.endpoint
    | unlisted _ unlisted => cases unlisted
    | unwritable _ unwritable => exact (sound_of_passes (.inl (.inl .null))).2 unwritable
    | app _ _ shapeless =>
      obtain ⟨v, found, -⟩ := shapeless
      cases found
    | mistaken _ mistaken => exact mistaken.not_namesModules (.inl .null)
  exact ⟨rfl, ((valid_or_refused_iff rfl).1.mpr sound).2.mpr valid⟩

def endpointNull : Config := ⟨.mapping [(.text "endpoint", .null)], "<programmatic>", []⟩

def modulesMapping : Config :=
  ⟨.mapping [(.text "modules", .mapping [(.text "a.B", .null)])], "<programmatic>", []⟩

/-- An endpoint without settings is not refused as a fault of the configuration, and a mapping is
accepted in place of the modules. -/
theorem null_endpoint_escapes :
    ¬ Reports endpointNull.validate ∧
      modulesMapping.validate = .ok () ∧ ¬ modulesMapping.Valid := by
  refine ⟨fun reports => ?_, by rfl, fun valid => ?_⟩
  · have fails : endpointNull.validate = .error .unsupported := rfl
    rw [fails] at reports
    obtain ⟨fault, same⟩ := reports.exists_fault
    cases same
  · rcases valid.modules with empty | ⟨paths, same, -⟩
    · cases empty
    · cases same

end SparqlCompose.Config
