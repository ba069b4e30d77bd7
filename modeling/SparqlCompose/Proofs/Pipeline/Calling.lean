import SparqlCompose.Proofs.Pipeline.Visit
import SparqlCompose.Proofs.Provider.Methods

namespace SparqlCompose

namespace Provider

variable {a : Act Response} {r : Request}

theorem RefusesRegion.report (refuses : RefusesRegion a r) (message : String) :
    RefusesRegion (do Edit.report r .debug message; a) r := by
  intro st
  obtain ⟨d, parameter, listed, lacks, refused⟩ :=
    refuses (st.recordAll #[⟨.debug, r.mark message⟩])
  exact ⟨d, parameter, listed, lacks, (Act.run_bind_ok (Act.run_report _ _ _ _)).trans refused⟩

theorem Breaks.report (breaks : Breaks a) (message : String) :
    Breaks (do Edit.report r .debug message; a) := by
  intro st
  obtain ⟨d, broke⟩ := breaks (st.recordAll #[⟨.debug, r.mark message⟩])
  exact ⟨d, (Act.run_bind_ok (Act.run_report _ _ _ _)).trans broke⟩

theorem AnswersOnce.report {call : Call} {reply : Reply} {response : Response}
    (answers : AnswersOnce a call reply response) (message : String) :
    AnswersOnce (do Edit.report r .debug message; a) call reply response := by
  intro st later given
  obtain ⟨d, ran⟩ := answers (st.recordAll #[⟨.debug, r.mark message⟩]) later given
  exact ⟨d, (Act.run_bind_ok (Act.run_report _ _ _ _)).trans ran⟩

end Provider

def Module.Has (m : Module) (method : RawText) (act : Services → Request → Act Response) :
    Prop :=
  ∃ key, .ofString key = method ∧ (key, act) ∈ m.methods

namespace Pipeline

variable {p : Pipeline} {name method : RawText}

def Registers (p : Pipeline) (name : RawText) : Prop := ∃ m ∈ p.modules, .ofString m.name = name

/-- The method is listed under these names. -/
def Lists (p : Pipeline) (name method : RawText) : Prop :=
  ∃ pair ∈ p.methods, .ofString pair.1 = name ∧ .ofString pair.2 = method

theorem lists_iff :
    p.Lists name method ↔ ∃ m ∈ p.modules, .ofString m.name = name ∧ ∃ act, m.Has method act := by
  simp only [Lists, methods, List.mem_flatMap, List.mem_map]
  constructor
  · rintro ⟨_, ⟨m, member, ⟨key, act⟩, has, rfl⟩, named, called⟩
    exact ⟨m, member, named, act, key, called, has⟩
  · rintro ⟨m, member, named, act, key, called, has⟩
    exact ⟨_, ⟨m, member, _, has, rfl⟩, named, called⟩

theorem module?_eq_none_iff : p.module? name = none ↔ ¬ p.Registers name := by
  simp [module?, Registers]

theorem module?_eq_some_iff (distinct : (p.modules.map (·.name)).Nodup) {m : Module} :
    p.module? name = some m ↔ m ∈ p.modules ∧ .ofString m.name = name := by
  have sound {m : Module} (found : p.module? name = some m) :
      m ∈ p.modules ∧ .ofString m.name = name :=
    ⟨List.mem_of_find?_eq_some found, by simpa using List.find?_some found⟩
  refine ⟨sound, fun ⟨member, named⟩ => ?_⟩
  cases found : p.module? name with
  | none => exact absurd ⟨m, member, named⟩ (module?_eq_none_iff.mp found)
  | some m' =>
    obtain ⟨member', named'⟩ := sound found
    have same : m'.name = m.name := RawText.ofString_inj.mp (named'.trans named.symm)
    rw [List.inj_on_of_nodup_map distinct member' member same]

theorem exists_method_cases (m : Module) (method : RawText) :
    (∃ act, m.Has method act ∧
      (method.toString?.bind fun key => Entries.get? key m.methods) = some act) ∨
    ((∀ act, ¬ m.Has method act) ∧
      (method.toString?.bind fun key => Entries.get? key m.methods) = none) := by
  cases found : method.toString?.bind fun key => Entries.get? key m.methods with
  | some act =>
    obtain ⟨key, called, got⟩ := Option.bind_eq_some_iff.mp found
    exact .inl ⟨act, ⟨key, (RawText.toString?_eq_some_iff.mp called).symm,
      Entries.mem_of_get? got⟩, rfl⟩
  | none =>
    refine .inr ⟨?_, rfl⟩
    rintro act ⟨key, rfl, has⟩
    rw [RawText.toString?_ofString, Option.bind_some] at found
    obtain ⟨_, is⟩ := Entries.mem_keys_iff.mp (List.mem_map_of_mem has : key ∈ Entries.keys _)
    rw [found] at is
    cases is

theorem invoke_cases (distinct : (p.modules.map (·.name)).Nodup) (name method : RawText) :
    (¬ p.Registers name ∧
      ∀ r, p.invoke name method r = throw (.unknownMethod (.unknownModule name))) ∨
    (p.Registers name ∧ ¬ p.Lists name method ∧
      ∀ r, p.invoke name method r = throw (.unknownMethod (.unknownMethod name method))) ∨
    ∃ m ∈ p.modules, .ofString m.name = name ∧ ∃ act, m.Has method act ∧
      ∀ r, p.invoke name method r = (do
        Edit.report r .debug s!"Invoking {name.shown}.{method.shown}"
        act p.services r) := by
  cases found : p.module? name with
  | none =>
    refine .inl ⟨module?_eq_none_iff.mp found, fun r => ?_⟩
    rw [invoke, found]
  | some m =>
    obtain ⟨member, named⟩ := (module?_eq_some_iff distinct).mp found
    rcases exists_method_cases m method with ⟨act, has, got⟩ | ⟨lacks, got⟩
    · refine .inr (.inr ⟨m, member, named, act, has, fun r => ?_⟩)
      simp only [invoke, found, got]
    · refine .inr (.inl ⟨⟨m, member, named⟩, fun listed => ?_, fun r => ?_⟩)
      · obtain ⟨m', member', named', act, has⟩ := lists_iff.mp listed
        -- The names differ, so the module that lists the method is the one that was found.
        rw [(module?_eq_some_iff distinct).mpr ⟨member', named'⟩] at found
        cases found
        exact lacks act has
      · simp only [invoke, found, got]

/-- The method of the module, called for the request, sends this call and answers the reply so. -/
def Answers (p : Pipeline) (name method : RawText) (r : Request) (call : Call) (reply : Reply)
    (response : Response) : Prop :=
  ∃ m ∈ p.modules, .ofString m.name = name ∧ ∃ act, m.Has method act ∧
    Provider.AnswersOnce (act p.services r) call reply response

variable {ps : List Provider}

theorem OfDomains.nodup_names (h : p.OfDomains ps) : (p.modules.map (·.name)).Nodup := by
  have names : p.modules.map (·.name) = ps.map (·.name) := by
    simp [h.modules, Provider.toModule]
  rw [names]
  exact h.distinct

theorem OfDomains.mem_water_methods (h : p.OfDomains ps) {m : Module} (member : m ∈ p.modules)
    {key : String} {act : Services → Request → Act Response} (has : (key, act) ∈ m.methods) :
    (key, act) ∈ Provider.water.methods := by
  rw [h.modules] at member
  obtain ⟨x, among, rfl⟩ := List.mem_map.mp member
  rcases h.known x among with rfl | rfl
  · exact has
  · exact absurd has List.not_mem_nil

/-- A call by listed names is refused for its parameters, or breaks over surrogates in them, or
sends one request and is answered by the method. -/
theorem OfDomains.invoke_listed (h : p.OfDomains ps)
    (valid : p.services.config.validate = .ok ()) {m : Module} (member : m ∈ p.modules)
    (named : .ofString m.name = name) {act : Services → Request → Act Response}
    (has : m.Has method act) {r : Request} (texts : r.Textual) {message : String}
    (runs : p.invoke name method r =
      (do Edit.report r .debug message; act p.services r)) :
    (Provider.Declines method r ∧ Provider.RefusesRegion (p.invoke name method r) r) ∨
    (Provider.Garbles method r ∧ Provider.Breaks (p.invoke name method r)) ∨
    (¬ Provider.Declines method r ∧ ¬ Provider.Garbles method r ∧
      ∃ call, ∀ reply : Reply, ¬ reply.Mute →
        (∀ text, reply.Answers text → Json.read text ≠ .error .tooDeep) →
        ∃ response, p.Answers name method r call reply response ∧
          Provider.AnswersOnce (p.invoke name method r) call reply response ∧
          Provider.Fits method reply response) := by
  rw [runs]
  obtain ⟨key, rfl, listed⟩ := has
  rcases Provider.method_cases valid (h.mem_water_methods member listed) texts with
    ⟨declines, refuses⟩ | ⟨garbles, breaks⟩ | ⟨accepts, plain, call, answers⟩
  · exact .inl ⟨declines, refuses.report message⟩
  · exact .inr (.inl ⟨garbles, breaks.report message⟩)
  · refine .inr (.inr ⟨accepts, plain, call, fun reply heard shallow => ?_⟩)
    obtain ⟨response, once, fits⟩ := answers reply heard shallow
    exact ⟨response, ⟨m, member, named, act, ⟨key, rfl, listed⟩, once⟩, once.report message, fits⟩

end Pipeline

end SparqlCompose
