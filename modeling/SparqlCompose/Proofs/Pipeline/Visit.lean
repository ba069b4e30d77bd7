import Mathlib.Data.List.Nodup
import SparqlCompose.Pipeline.Basic
import SparqlCompose.Proofs.Provider.Marked
import SparqlCompose.Rdf.Turtle.Document

namespace SparqlCompose

namespace Provider

/-- Two providers that mark sites under different names. -/
structure Apart (p other : Provider) : Prop where
  short : p.short ≠ other.short
  flag : p.flag ≠ other.flag

theorem Apart.symm {p other : Provider} (h : p.Apart other) : other.Apart p :=
  ⟨h.short.symm, h.flag.symm⟩

theorem Apart.flagIdentifier_ne {p other : Provider} (h : p.Apart other) :
    p.flagIdentifier ≠ other.flagIdentifier := fun same => h.flag (congrArg Identifier.name same)

theorem apart_water_air : water.Apart air := ⟨by decide, by decide⟩

def visitedAll (ps : List Provider) (q : QueryId) (sites : Bool) (query : Query) : Query :=
  ps.foldl (fun query p => p.visited q sites query) query

end Provider

namespace Pipeline

/-- The modules of the pipeline are the providers of water and air measurements, each at most once
and in any order. -/
structure OfDomains (p : Pipeline) (ps : List Provider) : Prop where
  modules : p.modules = ps.map Provider.toModule
  known : ∀ x ∈ ps, x = .water ∨ x = .air
  distinct : (ps.map (·.name)).Nodup

theorem repeatedNames_eq_nil (names : List String) : repeatedNames names = [] ↔ names.Nodup := by
  have sorted : repeatedNames names = [] ↔
      (names.filter fun n => 1 < names.count n).eraseDups = [] := by
    rw [← List.length_eq_zero_iff, repeatedNames, List.length_mergeSort, List.length_eq_zero_iff]
  have once : (names.filter fun n => 1 < names.count n).eraseDups = [] ↔
      names.filter (fun n => 1 < names.count n) = [] := by
    cases names.filter fun n => 1 < names.count n with
    | nil => simp
    | cons n rest => simp [List.eraseDups_cons]
  rw [sorted, once, List.filter_eq_nil_iff, List.nodup_iff_count_le_one]
  constructor
  · intro few n
    by_cases member : n ∈ names
    · simpa using few n member
    · simp [List.count_eq_zero_of_not_mem member]
  · intro few n _
    simpa using few n

def registrations (ms : List Module) : List Entry :=
  ms.map fun m => ⟨.info, s!"Registered module {m.text}"⟩

theorem run_register (ms : List Module) (d : Draft) :
    EStateM.run (ms.forM fun m => Edit.log .info s!"Registered module {m.text}") d =
      .ok () (d.recordAll (registrations ms).toArray) := by
  induction ms generalizing d with
  | nil => exact congrArg _ (Draft.recordAll_empty d).symm
  | cons m ms ih =>
    refine (Edit.run_bind_ok (Edit.run_log d _ _)).trans ((ih _).trans ?_)
    rw [Draft.record_eq_recordAll, Draft.recordAll_recordAll]
    simp [registrations]

/-- Modules are registered unless two of them have one name. -/
theorem run_make (ms : List Module) (services : Services) (d : Draft) :
    ((ms.map (·.name)).Nodup ∧ (make ms services).run d =
        .ok ⟨ms, services⟩ (d.recordAll (registrations ms).toArray)) ∨
      ¬ (ms.map (·.name)).Nodup ∧
        ∃ fault, (make ms services).run d = .error (.configuration fault) d := by
  rw [← repeatedNames_eq_nil]
  unfold make
  cases repeatedNames (ms.map (·.name)) with
  | cons name names => exact .inr ⟨nofun, _, rfl⟩
  | nil => exact .inl ⟨rfl, (Edit.run_bind_ok rfl).trans (Edit.run_bind_ok (run_register ms d))⟩

theorem ofDomains_of_make {ps : List Provider} {services : Services} {p : Pipeline} {d d' : Draft}
    (known : ∀ x ∈ ps, x = .water ∨ x = .air)
    (made : (make (ps.map Provider.toModule) services).run d = .ok p d') : p.OfDomains ps := by
  have names : (ps.map Provider.toModule).map (·.name) = ps.map (·.name) := by
    simp [Provider.toModule]
  rcases run_make (ps.map Provider.toModule) services d with
    ⟨distinct, registered⟩ | ⟨-, fault, refused⟩
  · rw [registered] at made
    cases made
    exact ⟨rfl, known, names ▸ distinct⟩
  · rw [refused] at made
    cases made

variable {p : Pipeline} {ps : List Provider} {d d' : Draft} {q : QueryId}

theorem OfDomains.marks (h : p.OfDomains ps) : ∀ x ∈ ps, x.Marks := by
  intro x member
  rcases h.known x member with rfl | rfl
  · exact Provider.marks_water
  · exact Provider.marks_air

theorem OfDomains.apart (h : p.OfDomains ps) : ps.Pairwise Provider.Apart := by
  refine List.Pairwise.imp_of_mem ?_ (List.pairwise_map.mp h.distinct)
  intro x y hx hy names
  rcases h.known x hx with rfl | rfl <;> rcases h.known y hy with rfl | rfl
  · exact absurd rfl names
  · exact Provider.apart_water_air
  · exact Provider.apart_water_air.symm
  · exact absurd rfl names

def visitOf (r : Request) (q : QueryId) (x : Provider) : Edit Unit := do
  reportVisit r q x.toModule
  x.visitQuery r q

theorem OfDomains.visitQuery_eq (h : p.OfDomains ps) (r : Request) (q : QueryId) :
    p.visitQuery r q = ps.forM (visitOf r q) := by
  rw [visitQuery, h.modules]
  exact List.forM_map

theorem framed_reportVisit (r : Request) (q : QueryId) (m : Module) :
    (reportVisit r q m).Framed q := by
  refine (Edit.framed_get q).bind fun d => ?_
  split
  · exact Edit.framed_throw q _
  · exact Edit.framed_log q _ _

theorem OfDomains.framed_visitQuery (h : p.OfDomains ps) (r : Request) (q : QueryId) :
    (p.visitQuery r q).Framed q := by
  rw [h.visitQuery_eq]
  refine .forM fun x _ => ?_
  exact (framed_reportVisit r q _).bind fun _ => Provider.framed_visitQuery x r q

theorem run_reportVisit_formless (r : Request) (m : Module)
    (formless : (d.query q).form = .formless) :
    (reportVisit r q m).run d = .error .unsupported d := by
  simp only [reportVisit, EStateM.run_bind, EStateM.run_get, formless, Edit.run_throw]

theorem reportVisit_rewrites (r : Request) (q : QueryId) (m : Module) (d : Draft) :
    (reportVisit r q m).Rewrites ((d.query q).form = .formless) q id () d := by
  generalize condition : ((d.query q).form = .formless) = trouble
  refine .get ?_
  cases form : (d.query q).form with
  | formless => exact .inl ⟨condition ▸ form, _, _, rfl⟩
  | select | construct => exact Edit.rewrites_log trouble q _ d

theorem visitOf_rewrites {x : Provider} (marks : x.Marks) (there : d.HasQuery q) (r : Request) :
    (visitOf r q x).Rewrites ((d.query q).form = .formless ∨
        (d.query q).form.IsSelect ∧ d.listsSites q ∧ ¬ x.Agrees (d.query q).register) q
      (x.visited q (d.listsSites q)) () d := by
  have reported := reportVisit_rewrites r q x.toModule d
  refine (reported.mono .inl).bind (g := x.visited q (d.listsSites q)) fun es => ?_
  rw [Draft.revise_eq_self d q id rfl]
  have sites := (Draft.Frame.recordAll q d es).listsSites
  have visit := x.visitQuery_rewrites marks (d := d.recordAll es) (by simpa using there) r
  rw [sites, Draft.query_recordAll] at visit
  exact visit.mono .inr

theorem OfDomains.visitQuery_rewrites (h : p.OfDomains ps) (there : d.HasQuery q) (r : Request) :
    (p.visitQuery r q).Rewrites
      ((d.query q).form = .formless ∨ (d.query q).form.IsSelect ∧ d.listsSites q) q
      (Provider.visitedAll ps q (d.listsSites q)) () d := by
  rw [h.visitQuery_eq]
  refine Edit.Rewrites.forM (I := fun now => d.Frame q now) ?_ ?_ (.refl q d)
  · intro x member now framed
    have visit := visitOf_rewrites (h.marks x member) ((framed.hasQuery q).mpr there) r
    rw [framed.listsSites] at visit
    refine visit.mono ?_
    rintro (formless | ⟨select, sites, -⟩)
    · exact .inl (framed.alike.formless.mp formless)
    · exact .inr ⟨framed.alike.isSelect.mp select, sites⟩
  · intro x member now es framed
    exact (framed.trans (.revise now (x.alike_visited q _))).trans (.recordAll q _ es)

theorem OfDomains.query_visitQuery (h : p.OfDomains ps) (there : d.HasQuery q) {r : Request}
    (returned : (p.visitQuery r q).run d = .ok () d') :
    d'.query q = Provider.visitedAll ps q (d.listsSites q) (d.query q) := by
  rcases h.visitQuery_rewrites there r with ⟨-, failure, d₁, failed⟩ | ⟨es, -, outcome⟩
  · rw [returned] at failed
    cases failed
  · rw [returned] at outcome
    cases outcome
    exact Draft.query_revise d q _ there

def siteOperations : List Operation :=
  let site : Variable := ⟨⟨0⟩, Provider.siteIdentifier⟩
  let type : Resource := ⟨⟨0⟩, Provider.typeIdentifier⟩
  let siteClass : Resource := ⟨⟨0⟩, Provider.siteClassIdentifier⟩
  [.newQuery false "SELECT",
   .internVariable ⟨0⟩ (Vocabulary.queryVariable ++ Vocabulary.site),
   .internResource ⟨0⟩ Provider.typeIri,
   .internResource ⟨0⟩ Provider.siteIri,
   .addPattern ⟨0⟩ (.ofTerm (.variable site)) (.ofTerm (.resource type))
     (.ofTerm (.resource siteClass)) .absent]

@[irreducible] def sites : Composition := Composition.start.replay siteOperations

theorem reachable_sites : sites.Reachable := by
  have admits : Composition.start.Admits siteOperations := by decide +kernel
  unfold sites
  exact Composition.reachable_replay admits

theorem hasQuery_sites : sites.draft.HasQuery ⟨0⟩ := by decide +kernel

theorem isSelect_sites : (sites.draft.query ⟨0⟩).form.IsSelect := by decide +kernel

def bothDomains : Pipeline :=
  ⟨[Provider.water.toModule, Provider.air.toModule], ⟨⟨.null, "", []⟩, false, Rdf.Turtle.read⟩⟩

theorem ofDomains_bothDomains : bothDomains.OfDomains [.water, .air] where
  modules := rfl
  known := by simp
  distinct := by decide

def standardDomains : Pipeline :=
  ⟨[Provider.water.toModule, Provider.air.toModule],
    ⟨⟨.mapping [], "", []⟩, false, Rdf.Turtle.read⟩⟩

theorem ofDomains_standardDomains : standardDomains.OfDomains [.water, .air] :=
  ⟨rfl, ofDomains_bothDomains.known, ofDomains_bothDomains.distinct⟩

theorem returns_bothDomains :
    ∃ d', (bothDomains.visitQuery ⟨"sites", []⟩ ⟨0⟩).run sites.draft = .ok () d' := by
  have returns : (match (bothDomains.visitQuery ⟨"sites", []⟩ ⟨0⟩).run sites.draft with
    | .ok .. => true
    | .error .. => false) = true := by decide +kernel
  cases outcome : (bothDomains.visitQuery ⟨"sites", []⟩ ⟨0⟩).run sites.draft with
  | ok a d' => exact ⟨d', rfl⟩
  | error e d' =>
    rw [outcome] at returns
    cases returns

end Pipeline

end SparqlCompose
