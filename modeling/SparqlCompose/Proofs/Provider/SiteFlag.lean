import SparqlCompose.Proofs.Draft.Frame
import SparqlCompose.Proofs.Draft.Rewriting
import SparqlCompose.Proofs.Nesting.Acyclic
import SparqlCompose.Provider.Air
import SparqlCompose.Provider.Water

namespace SparqlCompose

namespace Provider

def siteIdentifier : Identifier := Edit.sharedIdentifier Vocabulary.site

def typeIdentifier : Identifier := ⟨Vocabulary.rdf, "type"⟩

def siteClassIdentifier : Identifier := ⟨Vocabulary.pollution, "MeasurementSite"⟩

theorem ofText?_site :
    Identifier.ofText? (Vocabulary.queryVariable ++ Vocabulary.site) = some siteIdentifier := by
  decide +kernel

theorem ofText?_type : Identifier.ofText? typeIri = some typeIdentifier := by decide +kernel

theorem ofText?_siteClass : Identifier.ofText? siteIri = some siteClassIdentifier := by
  decide +kernel

def mark (p : Provider) : String :=
  "EXISTS \x7b ?" ++ Vocabulary.site ++ " a " ++ p.short ++ ":" ++ p.siteClass ++ " \x7d"

def flagIdentifier (p : Provider) : Identifier := Edit.sharedIdentifier p.flag

def flagFor (p : Provider) (q : QueryId) : Variable := ⟨q, p.flagIdentifier⟩

/-- The mark of the provider is read back from its text, and is not taken for the sites. -/
structure Marks (p : Provider) : Prop where
  read : Computed.ofText? p.flagText = some ⟨p.mark, p.flag⟩
  apart : p.flag ≠ Vocabulary.site

theorem marks_water : water.Marks := ⟨by decide +kernel, by decide⟩

theorem marks_air : air.Marks := ⟨by decide +kernel, by decide⟩

theorem Marks.flagIdentifier_ne {p : Provider} (marks : p.Marks) :
    p.flagIdentifier ≠ siteIdentifier := fun same => marks.apart (congrArg Identifier.name same)

end Provider

namespace Draft

def siteGroups (d : Draft) (q : QueryId) : List GroupId :=
  d.find (d.query q).body (.ofTerm (.variable ⟨q, Provider.siteIdentifier⟩))
    (.ofTerm (.resource ⟨q, Provider.typeIdentifier⟩))
    (.ofTerm (.resource ⟨q, Provider.siteClassIdentifier⟩))

def listsSites (d : Draft) (q : QueryId) : Bool := !(d.siteGroups q).isEmpty

theorem siteGroups_congr {d d' : Draft} {q : QueryId} (groups : d'.groups = d.groups)
    (body : (d'.query q).body = (d.query q).body) : d'.siteGroups q = d.siteGroups q := by
  rw [siteGroups, siteGroups, body, find_congr groups]

theorem Frame.listsSites {d d' : Draft} {q : QueryId} (h : d.Frame q d') :
    d'.listsSites q = d.listsSites q := by
  unfold Draft.listsSites
  rw [siteGroups_congr h.groups h.alike.body]

end Draft

namespace Query

def register (query : Query) : Query :=
  ((query.ask Provider.siteIdentifier).meet Provider.typeIdentifier).meet
    Provider.siteClassIdentifier

end Query

namespace Provider

def flagged (p : Provider) (q : QueryId) (query : Query) : Query :=
  ((query.bind p.short p.space).express p.flagIdentifier p.mark).join [p.flagFor q]

def visited (p : Provider) (q : QueryId) (sites : Bool) (query : Query) : Query :=
  if query.form.IsSelect then if sites then p.flagged q query.register else query.register
  else query

theorem alike_register (query : Query) : query.register.Alike query := ⟨rfl, rfl, rfl, rfl⟩

theorem alike_flagged (p : Provider) (q : QueryId) (query : Query) :
    (p.flagged q query).Alike query := by
  have joined := Query.Alike.reform
    ((query.bind p.short p.space).express p.flagIdentifier p.mark)
    fun form => Draft.keepFirst (form.projection ++ [p.flagFor q])
  exact joined.trans ⟨rfl, rfl, rfl, rfl⟩

theorem alike_visited (p : Provider) (q : QueryId) (sites : Bool) (query : Query) :
    (p.visited q sites query).Alike query := by
  unfold visited
  split
  · split
    · exact (alike_flagged p q _).trans (alike_register query)
    · exact alike_register query
  · exact .refl query

/-- Nothing that the query knows conflicts with the mark of the provider. -/
structure Agrees (p : Provider) (query : Query) : Prop where
  namespaces : query.prefixConflict? p.short p.space = none
  free : Entries.get? p.flagIdentifier query.asked ≠ some none
  expression : query.aliasConflict? ⟨p.mark, p.flag⟩ = none

end Provider

namespace Provider

variable {p : Provider} {d : Draft} {q : QueryId}

theorem framed_addSiteFlag (p : Provider) (q : QueryId) : (p.addSiteFlag q).Framed q :=
  (Edit.framed_bindNamespace q _ _).bind fun _ =>
    (Edit.framed_expression q _).bind fun _ => Edit.framed_addProjection q _

theorem framed_visitQuery (p : Provider) (r : Request) (q : QueryId) :
    (p.visitQuery r q).Framed q := by
  refine (Edit.framed_log q _ _).bind fun _ => (Edit.framed_get q).bind fun d => ?_
  split
  · refine (Edit.framed_internVariable q _).bind fun site =>
      (Edit.framed_internResource q _).bind fun type =>
        (Edit.framed_internResource q _).bind fun siteClass =>
          (Edit.framed_get q).bind fun d => ?_
    dsimp only
    split
    · exact Edit.framed_pure q ()
    · exact framed_addSiteFlag p q
  · exact Edit.framed_pure q ()

theorem addSiteFlag_rewrites (marks : p.Marks) (there : d.HasQuery q)
    (select : (d.query q).form.IsSelect) :
    (p.addSiteFlag q).Rewrites (¬ p.Agrees (d.query q)) q (p.flagged q) () d := by
  have bound := Edit.rewrites_bindNamespace p.short p.space q d
  refine (bound.mono ?_).bind
    (g := fun query => (query.express p.flagIdentifier p.mark).join [p.flagFor q]) fun es => ?_
  · intro conflict agrees
    exact conflict agrees.namespaces
  have now : ((d.revise q (·.bind p.short p.space)).recordAll es).query q =
      (d.query q).bind p.short p.space := Draft.query_revise d q _ there
  have still : (((d.revise q (·.bind p.short p.space)).recordAll es).query q).form.IsSelect := by
    rw [now]
    exact select
  have expressed := Edit.rewrites_expression marks.read still
  rw [now] at expressed
  refine (expressed.mono ?_).bind (g := (·.join [p.flagFor q])) fun fs => ?_
  · rintro (taken | conflict) agrees
    · exact agrees.free taken
    · exact conflict agrees.expression
  apply Edit.rewrites_addProjection
  rw [Draft.query_recordAll, Draft.query_revise _ q _ (by simpa using there), now]
  exact select

theorem search_rewrites (marks : p.Marks) (there : d.HasQuery q)
    (select : (d.query q).form.IsSelect) :
    Edit.Rewrites (d.listsSites q ∧ ¬ p.Agrees (d.query q)) q
      (fun query => if d.listsSites q then p.flagged q query else query) ()
      (if (d.siteGroups q).isEmpty then pure () else p.addSiteFlag q) d := by
  by_cases none : (d.siteGroups q).isEmpty
  · have sites : d.listsSites q = false := by rw [Draft.listsSites, none]; rfl
    rw [if_pos none]
    refine (Edit.rewrites_pure _ q () d).congr ?_
    simp only [sites, Bool.false_eq_true, if_false, id]
  · have sites : d.listsSites q = true := by simpa [Draft.listsSites] using none
    rw [if_neg none]
    refine ((addSiteFlag_rewrites marks there select).mono ?_).congr ?_
    · exact fun conflict => ⟨sites, conflict⟩
    · simp only [sites, if_true]

theorem idle_visitQuery (r : Request) (select : ¬ (d.query q).form.IsSelect) :
    (p.visitQuery r q).run d =
      .ok () (d.record ⟨.debug, r.mark s!"{p.name} updating query"⟩) := by
  simp only [visitQuery, Edit.report, EStateM.run_bind, Edit.run_log, EStateM.run_get,
    Draft.query_record]
  cases form : (d.query q).form with
  | select => exact absurd (form ▸ trivial) select
  | construct | formless => rfl

theorem run_visitQuery (p : Provider) (r : Request) (select : (d.query q).form.IsSelect) :
    (p.visitQuery r q).run d =
      (if (d.siteGroups q).isEmpty then pure () else p.addSiteFlag q).run
        ((d.record ⟨.debug, r.mark s!"{p.name} updating query"⟩).revise q Query.register) := by
  obtain ⟨distinct, projection, grouping, form⟩ := select.eq
  generalize noted : d.record ⟨.debug, r.mark s!"{p.name} updating query"⟩ = start
  have same : d.Frame q (start.revise q Query.register) := by
    rw [← noted]
    exact (Draft.Frame.record q d _).trans (.revise _ alike_register)
  rw [← Draft.siteGroups_congr same.groups same.alike.body]
  simp only [visitQuery, Edit.report, EStateM.run_bind, Edit.run_log, EStateM.run_get, noted]
  have still : (start.query q).form = .select distinct projection grouping := by
    rw [← noted, Draft.query_record, form]
  simp only [still, EStateM.run_bind, Edit.run_internVariable, ofText?_site,
    Edit.run_internResource, ofText?_type, ofText?_siteClass, Draft.revise_revise,
    EStateM.run_get]
  rfl
theorem select_rewrites (marks : p.Marks) (there : d.HasQuery q)
    (select : (d.query q).form.IsSelect) (r : Request) :
    (p.visitQuery r q).Rewrites (d.listsSites q ∧ ¬ p.Agrees (d.query q).register) q
      (fun query => if d.listsSites q then p.flagged q query.register else query.register)
      () d := by
  generalize noted : (⟨.debug, r.mark s!"{p.name} updating query"⟩ : Entry) = entry
  have run := run_visitQuery p r select
  rw [noted, Draft.record_eq_recordAll] at run
  refine .of_run (g := fun query => if d.listsSites q then p.flagged q query else query) run
    (fun _ e member => ?_) ?_
  · rw [Array.mem_singleton.mp member, ← noted]
  -- what was asked for so far does not change where the sites are found
  have framed : d.Frame q ((d.recordAll #[entry]).revise q Query.register) :=
    (Draft.Frame.recordAll q d _).trans (.revise _ alike_register)
  have known : ((d.recordAll #[entry]).revise q Query.register).query q = (d.query q).register :=
    Draft.query_revise _ q _ there
  have found := search_rewrites (d := (d.recordAll #[entry]).revise q Query.register) marks
    (by simpa using there) (by rw [known]; exact select)
  rw [framed.listsSites, Draft.siteGroups_congr framed.groups framed.alike.body, known] at found
  exact found

theorem visitQuery_rewrites (marks : p.Marks) (there : d.HasQuery q) (r : Request) :
    (p.visitQuery r q).Rewrites
      ((d.query q).form.IsSelect ∧ d.listsSites q ∧ ¬ p.Agrees (d.query q).register) q
      (p.visited q (d.listsSites q)) () d := by
  by_cases select : (d.query q).form.IsSelect
  · refine ((select_rewrites marks there select r).mono fun conflict => ⟨select, conflict⟩).congr ?_
    rw [visited, if_pos select]
  · have unchanged : p.visited q (d.listsSites q) (d.query q) = d.query q := by
      rw [visited, if_neg select]
    refine .inr ⟨#[⟨.debug, r.mark s!"{p.name} updating query"⟩], ?_, ?_⟩
    · intro _ entry member
      rw [Array.mem_singleton.mp member]
    · rw [idle_visitQuery r select, Draft.revise_eq_self d q _ unchanged,
        Draft.record_eq_recordAll]

end Provider

end SparqlCompose
