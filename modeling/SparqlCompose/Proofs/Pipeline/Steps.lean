import SparqlCompose.Proofs.Composition.History
import SparqlCompose.Proofs.Pipeline.Visit

namespace SparqlCompose

open Relation (ReflTransGen)

/-- Operations lead to what the step leaves. -/
def Edit.Composes {α : Type} (e : Edit α) (c : Composition) : Prop :=
  ReflTransGen Composition.Next c ⟨Edit.left (e.run c.draft), c.patterns⟩

namespace Edit

variable {α β : Type} {c : Composition} {q : QueryId}

theorem Composes.bind {e : Edit α} {k : α → Edit β} (first : e.Composes c)
    (rest : ∀ a d, e.run c.draft = .ok a d → (k a).Composes ⟨d, c.patterns⟩) :
    (e >>= k).Composes c := by
  unfold Composes at first ⊢
  rw [EStateM.run_bind]
  cases run : e.run c.draft with
  | error failure d =>
    rw [run] at first
    exact first
  | ok a d =>
    rw [run] at first
    exact first.trans (rest a d run)

theorem composes_pure (a : α) (c : Composition) : (pure a : Edit α).Composes c := .refl

theorem composes_throw (e : Failure) (c : Composition) : (throw e : Edit α).Composes c := .refl

theorem composes_get (c : Composition) : (get : Edit Draft).Composes c := .refl

theorem composes_operation {e : Edit α} (o : Operation) {answer : α → Answer}
    (run : o.run = do return answer (← e)) (plain : ∀ a, Composition.newPatterns (answer a) = [])
    (fits : o.Fits c) : e.Composes c := by
  unfold Composes
  rw [← Composition.after_eq_left run plain]
  exact .single ⟨o, fits, rfl⟩

theorem composes_log (level : Level) (message : String) (c : Composition) :
    (log level message).Composes c :=
  composes_operation (.report level message) rfl (fun _ => rfl) trivial

theorem Composes.forM {xs : List α} {f : α → Edit Unit} (framed : ∀ x ∈ xs, (f x).Framed q)
    (each : ∀ x ∈ xs, ∀ c : Composition, c.draft.HasQuery q → (f x).Composes c)
    (there : c.draft.HasQuery q) : (xs.forM f).Composes c := by
  induction xs generalizing c with
  | nil => exact composes_pure () c
  | cons x xs ih =>
    refine (each x (by simp) c there).bind fun _ d run => ?_
    refine ih (fun y member => framed y (by simp [member]))
      (fun y member => each y (by simp [member])) ?_
    have frame := framed x (by simp) c.draft
    rw [run] at frame
    exact (frame.hasQuery q).mpr there

theorem hasQuery_of_framed {e : Edit α} {d d' : Draft} {a : α} (framed : e.Framed q)
    (run : e.run d = .ok a d') (there : d.HasQuery q) : d'.HasQuery q := by
  have frame := framed d
  rw [run] at frame
  exact (frame.hasQuery q).mpr there

theorem holds_of_expression {d : Draft} {text : Option String} {v : Variable}
    (there : c.draft.HasQuery q) (run : (expression q text).run c.draft = .ok v d) :
    (Composition.mk d c.patterns).Holds (.variable v) := by
  obtain ⟨-, x, -, -, rfl, settled⟩ := expression_eq_ok run
  obtain ⟨here, query⟩ := Draft.query_of_settling there settled
  refine ⟨here, ?_⟩
  rw [query]
  exact Entries.mem_keys_iff.mpr ⟨_, Entries.get?_put_self _ _ _⟩

end Edit

namespace Provider

open Edit

variable {c : Composition} {q : QueryId}

theorem composes_addSiteFlag (p : Provider) (there : c.draft.HasQuery q) :
    (p.addSiteFlag q).Composes c := by
  refine .bind (composes_operation (.bindNamespace q p.short p.space) rfl (fun _ => rfl) there)
    fun _ d bound => ?_
  have there := hasQuery_of_framed (framed_bindNamespace q _ _) bound there
  refine .bind (composes_operation (.expression q (some p.flagText)) rfl (fun _ => rfl) there)
    fun flag d made => ?_
  have known := holds_of_expression there made
  have there := hasQuery_of_framed (framed_expression q _) made there
  exact composes_operation (.addProjection q (.entity (.variable flag))) rfl (fun _ => rfl)
    ⟨there, known⟩

theorem composes_visitQuery (p : Provider) (r : Request) (there : c.draft.HasQuery q) :
    (p.visitQuery r q).Composes c := by
  refine (composes_log _ _ c).bind fun _ d logged => ?_
  have there := hasQuery_of_framed (framed_log q _ _) logged there
  refine (composes_get _).bind fun read d got => ?_
  cases got
  split
  · refine .bind (composes_operation (.internVariable q _) rfl (fun _ => rfl) there)
      fun site d asked => ?_
    have there := hasQuery_of_framed (framed_internVariable q _) asked there
    refine .bind (composes_operation (.internResource q _) rfl (fun _ => rfl) there)
      fun type d met => ?_
    have there := hasQuery_of_framed (framed_internResource q _) met there
    refine .bind (composes_operation (.internResource q _) rfl (fun _ => rfl) there)
      fun siteClass d met => ?_
    have there := hasQuery_of_framed (framed_internResource q _) met there
    refine (composes_get _).bind fun read d got => ?_
    cases got
    dsimp only
    split
    · exact composes_pure () _
    · exact p.composes_addSiteFlag there
  · exact composes_pure () _

end Provider

namespace Pipeline

open Edit

variable {p : Pipeline} {ps : List Provider} {c : Composition} {q : QueryId}

def OfProviders (p : Pipeline) (ps : List Provider) : Prop := p.modules = ps.map Provider.toModule

theorem ofProviders_bothDomains : bothDomains.OfProviders [.water, .air] := rfl

theorem OfProviders.visitQuery_eq (h : p.OfProviders ps) (r : Request) (q : QueryId) :
    p.visitQuery r q = ps.forM (visitOf r q) := by
  rw [visitQuery, h]
  exact List.forM_map

theorem composes_reportVisit (r : Request) (m : Module) : (reportVisit r q m).Composes c := by
  refine (composes_get c).bind fun read d got => ?_
  split
  · exact composes_throw _ _
  · exact composes_log _ _ _

theorem framed_visitOf (r : Request) (q : QueryId) (x : Provider) : (visitOf r q x).Framed q :=
  (framed_reportVisit r q _).bind fun _ => x.framed_visitQuery r q

theorem composes_visitOf (r : Request) (x : Provider) (there : c.draft.HasQuery q) :
    (visitOf r q x).Composes c := by
  refine (composes_reportVisit r x.toModule).bind fun _ d reported => ?_
  exact x.composes_visitQuery r (hasQuery_of_framed (framed_reportVisit r q _) reported there)

theorem OfProviders.framed_visitQuery (h : p.OfProviders ps) (r : Request) (q : QueryId) :
    (p.visitQuery r q).Framed q := by
  rw [h.visitQuery_eq]
  exact .forM fun x _ => framed_visitOf r q x

theorem OfProviders.visitQuery_later (h : p.OfProviders ps) (r : Request)
    (there : c.draft.HasQuery q) :
    ReflTransGen Composition.Next c ⟨left ((p.visitQuery r q).run c.draft), c.patterns⟩ := by
  rw [h.visitQuery_eq]
  exact Composes.forM (fun x _ => framed_visitOf r q x)
    (fun x _ c there => composes_visitOf r x there) there

end Pipeline

/-- An operation of a contributor, or the visit of a pipeline to a query. -/
inductive Step
  | operation (o : Operation)
  | visit (r : Request) (q : QueryId)

def Step.Fits (c : Composition) : Step → Prop
  | .operation o => o.Fits c
  | .visit _ q => c.draft.HasQuery q

instance (c : Composition) (s : Step) : Decidable (s.Fits c) :=
  match s with
  | .operation o => inferInstanceAs (Decidable (o.Fits c))
  | .visit _ q => inferInstanceAs (Decidable (c.draft.HasQuery q))

namespace Composition

variable (c : Composition) (p : Pipeline)

def step : Step → Composition
  | .operation o => c.after o
  | .visit r q => ⟨Edit.left ((p.visitQuery r q).run c.draft), c.patterns⟩

def result : Step → Except Failure Answer
  | .operation o => c.outcome o
  | .visit r q =>
    match (p.visitQuery r q).run c.draft with
    | .ok () _ => .ok .done
    | .error e _ => .error e

def proceed : Composition → List Step → Composition
  | c, [] => c
  | c, s :: rest => proceed (c.step p s) rest

def results : Composition → List Step → List (Except Failure Answer)
  | _, [] => []
  | c, s :: rest => c.result p s :: results (c.step p s) rest

def Allows : Composition → List Step → Prop
  | _, [] => True
  | c, s :: rest => s.Fits c ∧ Allows (c.step p s) rest

instance decidableAllows : (c : Composition) → (ss : List Step) → Decidable (Allows p c ss)
  | _, [] => inferInstanceAs (Decidable True)
  | c, s :: rest =>
    have := decidableAllows (c.step p s) rest
    inferInstanceAs (Decidable (s.Fits c ∧ Allows p (c.step p s) rest))

variable {c p} {ps : List Provider}

theorem step_later (made : p.OfProviders ps) {s : Step} (fits : s.Fits c) :
    ReflTransGen Next c (c.step p s) := by
  cases s with
  | operation o => exact .single ⟨o, fits, rfl⟩
  | visit r q => exact made.visitQuery_later r fits

theorem proceed_later (made : p.OfProviders ps) {ss : List Step} (fits : c.Allows p ss) :
    ReflTransGen Next c (c.proceed p ss) := by
  induction ss generalizing c with
  | nil => exact .refl
  | cons s rest ih => exact (step_later made fits.1).trans (ih fits.2)

/-- Some contributor takes a step: an operation, or the visit of a pipeline of any providers. The
step may fail. -/
def StepsTo (c c' : Composition) : Prop :=
  ∃ p ps s, Pipeline.OfProviders p ps ∧ s.Fits c ∧ c' = c.step p s

theorem stepsTo_later {c c' : Composition} (h : ReflTransGen StepsTo c c') :
    ReflTransGen Next c c' := by
  induction h with
  | refl => exact .refl
  | tail _ step ih =>
    obtain ⟨p, ps, s, made, fits, rfl⟩ := step
    exact ih.trans (step_later made fits)

theorem proceed_stepsTo (made : p.OfProviders ps) {ss : List Step} (fits : c.Allows p ss) :
    ReflTransGen StepsTo c (c.proceed p ss) := by
  induction ss generalizing c with
  | nil => exact .refl
  | cons s rest ih => exact .head ⟨p, ps, s, made, fits.1, rfl⟩ (ih fits.2)

end Composition

end SparqlCompose
