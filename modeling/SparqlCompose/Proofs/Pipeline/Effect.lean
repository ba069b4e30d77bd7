import SparqlCompose.Proofs.Pipeline.Idempotence

namespace SparqlCompose

def Pattern.StatesSite (x : Pattern) : Prop :=
  ∃ site type siteClass,
    x.subject = .variable site ∧ site.identifier = Provider.siteIdentifier ∧
    x.predicate = .resource type ∧ type.identifier = Provider.typeIdentifier ∧
    x.object = .resource siteClass ∧ siteClass.identifier = Provider.siteClassIdentifier

/-- Somewhere in its body the query asks for the measurement sites. -/
def Draft.AsksForSites (d : Draft) (q : QueryId) : Prop :=
  ∃ g, d.Encloses (d.query q).body g ∧ ∃ x ∈ (d.group g).patterns, x.StatesSite

/-- The second draft is the first with the marks of the providers in one of its queries. -/
structure Draft.Marked (q : QueryId) (ps : List Provider) (d d' : Draft) : Prop where
  keys : Entries.keys (d'.query q).namespaces = Entries.keys (d.query q).namespaces ++
    (ps.map (·.short)).filter (· ∉ Entries.keys (d.query q).namespaces)
  bound : ∀ x ∈ ps, Entries.get? x.short (d'.query q).namespaces = some x.space
  unbound : ∀ label ∉ ps.map (·.short),
    Entries.get? label (d'.query q).namespaces = Entries.get? label (d.query q).namespaces
  expressed : ∀ x ∈ ps, d'.expression? (x.flagFor q) = some x.mark
  unexpressed : ∀ v ∉ ps.map (·.flagFor q), d'.expression? v = d.expression? v
  projection : (d'.query q).form.projection = (d.query q).form.projection ++
    (ps.map (·.flagFor q)).filter (·.identifier ∉ identifiers (d.query q).form.projection)

theorem Operand.accepts_ofTerm (wanted stored : Term) :
    (ofTerm wanted).accepts stored = stored.answers wanted := by
  cases wanted <;> rfl

theorem Term.answers_variable {stored : Term} {w : Variable} :
    stored.answers (.variable w) = true ↔
      ∃ v, stored = .variable v ∧ v.identifier = w.identifier := by
  cases stored <;> simp [answers]

theorem Term.answers_resource {stored : Term} {w : Resource} :
    stored.answers (.resource w) = true ↔
      ∃ v, stored = .resource v ∧ v.identifier = w.identifier := by
  cases stored <;> simp [answers]

theorem Pattern.answers_iff_statesSite (x : Pattern) (q : QueryId) :
    x.answers (.ofTerm (.variable ⟨q, Provider.siteIdentifier⟩))
      (.ofTerm (.resource ⟨q, Provider.typeIdentifier⟩))
      (.ofTerm (.resource ⟨q, Provider.siteClassIdentifier⟩)) = true ↔ x.StatesSite := by
  simp only [answers, Bool.and_eq_true, Operand.accepts_ofTerm, Term.answers_variable,
    Term.answers_resource]
  constructor
  · rintro ⟨⟨⟨site, subject, same⟩, type, predicate, sameType⟩, siteClass, object, sameClass⟩
    exact ⟨site, type, siteClass, subject, same, predicate, sameType, object, sameClass⟩
  · rintro ⟨site, type, siteClass, subject, same, predicate, sameType, object, sameClass⟩
    exact ⟨⟨⟨site, subject, same⟩, type, predicate, sameType⟩, siteClass, object, sameClass⟩

theorem Draft.WellNested.listsSites_iff {d : Draft} {q : QueryId} (nested : d.WellNested)
    (there : d.HasGroup (d.query q).body) : d.listsSites q = true ↔ d.AsksForSites q := by
  have found : d.listsSites q = true ↔ ∃ g, g ∈ d.siteGroups q := by
    simp [Draft.listsSites, List.eq_nil_iff_forall_not_mem]
  rw [found]
  refine exists_congr fun g => ?_
  rw [Draft.siteGroups, nested.mem_find there, List.any_eq_true]
  refine and_congr_right fun _ => exists_congr fun x => and_congr_right fun _ => ?_
  exact x.answers_iff_statesSite q

namespace Provider

variable {ps : List Provider} {q : QueryId} {query : Query}

theorem namespaces_visitedAll (ps : List Provider) (q : QueryId) (select : query.form.IsSelect) :
    (visitedAll ps q true query).namespaces =
      Entries.putAll (ps.map fun p => (p.short, p.space)) query.namespaces := by
  induction ps generalizing query with
  | nil => rfl
  | cons p ps ih =>
    have still := (p.alike_visited q true query).isSelect.mpr select
    have first : (p.visited q true query).namespaces =
        Entries.put p.short p.space query.namespaces := by
      rw [visited, if_pos select]
      rfl
    have rest := ih still
    rw [first] at rest
    exact rest

theorem projection_visitedAll (ps : List Provider) (q : QueryId) (select : query.form.IsSelect)
    (distinct : (identifiers query.form.projection).Nodup) :
    (visitedAll ps q true query).form.projection =
      (ps.map (·.flagFor q)).foldl joined query.form.projection := by
  induction ps generalizing query with
  | nil => rfl
  | cons p ps ih =>
    have still := (p.alike_visited q true query).isSelect.mpr select
    have first : (p.visited q true query).form.projection =
        joined query.form.projection (p.flagFor q) := by
      have known : query.register.form.IsSelect := select
      rw [visited, if_pos select, if_pos rfl, projection_flagged p q known]
      exact keepFirst_append distinct (p.flagFor q)
    have rest := ih still (by rw [first]; exact nodup_joined distinct _)
    rw [first] at rest
    exact rest

theorem join_get?_ask (i j : Identifier) (query : Query) :
    (Entries.get? j (query.ask i).asked).join = (Entries.get? j query.asked).join := by
  by_cases apart : j = i
  · subst apart
    cases known : Entries.get? j query.asked with
    | some e => rw [query.get?_ask_of_some known]
    | none =>
      have new : (query.ask j).asked = Entries.put j none query.asked := by
        simp only [Query.ask, known]
      rw [new, Entries.get?_put_self]
      rfl
  · rw [query.get?_ask apart]

theorem expression_visited {p : Provider} {i : Identifier} {sites : Bool}
    (other : sites → i ≠ p.flagIdentifier) (q : QueryId) (query : Query) :
    (Entries.get? i (p.visited q sites query).asked).join = (Entries.get? i query.asked).join := by
  have registered : (Entries.get? i query.register.asked).join =
      (Entries.get? i query.asked).join := join_get?_ask siteIdentifier i query
  unfold visited
  split
  · split
    · rename_i found
      have kept : Entries.get? i (p.flagged q query.register).asked =
          Entries.get? i query.register.asked := Entries.get?_put_ne (other found) _ _
      rw [kept, registered]
    · exact registered
  · rfl

theorem expression_visitedAll {i : Identifier} {sites : Bool}
    (other : sites → ∀ p ∈ ps, i ≠ p.flagIdentifier) (q : QueryId) (query : Query) :
    (Entries.get? i (visitedAll ps q sites query).asked).join =
      (Entries.get? i query.asked).join := by
  induction ps generalizing query with
  | nil => rfl
  | cons p ps ih =>
    rw [← expression_visited (fun found => other found p (by simp)) q query]
    exact ih (fun found x member => other found x (by simp [member])) _

theorem visitedAll_of_not_select (ps : List Provider) (q : QueryId) (sites : Bool)
    (select : ¬ query.form.IsSelect) : visitedAll ps q sites query = query := by
  induction ps with
  | nil => rfl
  | cons p ps ih =>
    have first : p.visited q sites query = query := by rw [visited, if_neg select]
    rw [visitedAll, List.foldl_cons, first]
    exact ih

/-- Where no sites are asked for, a visit leaves what the query is written from. -/
theorem visitedAll_false (ps : List Provider) (q : QueryId) (query : Query) :
    (visitedAll ps q false query).namespaces = query.namespaces ∧
      (visitedAll ps q false query).form = query.form := by
  induction ps generalizing query with
  | nil => exact ⟨rfl, rfl⟩
  | cons p ps ih =>
    have first : (p.visited q false query).namespaces = query.namespaces ∧
        (p.visited q false query).form = query.form := by
      unfold visited
      split <;> exact ⟨rfl, rfl⟩
    obtain ⟨namespaces, form⟩ := ih (p.visited q false query)
    exact ⟨namespaces.trans first.1, form.trans first.2⟩

end Provider

namespace Pipeline

variable {p : Pipeline} {ps : List Provider} {d d' : Draft} {q : QueryId}

theorem OfDomains.nodup_shorts (h : p.OfDomains ps) : (ps.map (·.short)).Nodup :=
  List.pairwise_map.mpr (h.apart.imp fun apart => apart.short)

theorem keys_spaces (ps : List Provider) :
    Entries.keys (ps.map fun x => (x.short, x.space)) = ps.map (·.short) := by
  simp [Entries.keys]

theorem OfDomains.nodup_keys_spaces (h : p.OfDomains ps) :
    (Entries.keys (ps.map fun x => (x.short, x.space))).Nodup := by
  rw [keys_spaces]
  exact h.nodup_shorts

theorem OfDomains.nodup_flags (h : p.OfDomains ps) (q : QueryId) :
    (identifiers (ps.map (·.flagFor q))).Nodup := by
  rw [identifiers, List.map_map]
  exact List.pairwise_map.mpr (h.apart.imp fun apart => apart.flagIdentifier_ne)

theorem OfDomains.marked (h : p.OfDomains ps) (select : (d.query q).form.IsSelect)
    (distinct : (identifiers (d.query q).form.projection).Nodup) (framed : d.Frame q d')
    (query : d'.query q = Provider.visitedAll ps q true (d.query q)) : d.Marked q ps d' := by
  have namespaces := Provider.namespaces_visitedAll ps q select
  rw [← query] at namespaces
  have settled := Provider.settled_visitedAll h.apart h.marks q true (d.query q)
  rw [← query] at settled
  have still : (d'.query q).form.IsSelect := framed.alike.isSelect.mpr select
  refine ⟨?_, ?_, ?_, ?_, ?_, ?_⟩
  · rw [namespaces, Entries.keys_putAll h.nodup_keys_spaces, keys_spaces]
  · intro x member
    rw [namespaces]
    exact Entries.get?_putAll_of_mem h.nodup_keys_spaces (List.mem_map.mpr ⟨x, member, rfl⟩) _
  · intro label absent
    rw [namespaces]
    exact Entries.get?_putAll_of_not_mem (by rw [keys_spaces]; exact absent) _
  · intro x member
    have expressed := ((settled x member still).2 rfl).expressed
    simp only [Draft.expression?, Provider.flagFor, expressed, Option.join_some]
  · intro v absent
    by_cases here : v.query = q
    · subst here
      have other : ∀ x ∈ ps, v.identifier ≠ x.flagIdentifier := by
        intro x member same
        apply absent
        exact List.mem_map.mpr ⟨x, member, by rw [Provider.flagFor, ← same]⟩
      rw [Draft.expression?, Draft.expression?, query]
      exact Provider.expression_visitedAll (fun _ => other) _ _
    · rw [Draft.expression?, Draft.expression?, framed.others _ here]
  · rw [query, Provider.projection_visitedAll ps q select distinct, foldl_joined (h.nodup_flags q)]

theorem listsSites_iff_asks {c : Composition} (h : c.Reachable) (there : c.draft.HasQuery q) :
    c.draft.listsSites q = true ↔ c.draft.AsksForSites q :=
  h.wellNested.listsSites_iff (h.rooted_changes.1 q there _ (Query.body_mem_roots _))

theorem OfDomains.idle_of_construct (h : p.OfDomains ps) (there : d.HasQuery q) (r : Request)
    {template : GroupId} (form : (d.query q).form = .construct template) :
    ∃ es, (p.visitQuery r q).run d = .ok () (d.recordAll es) := by
  have other : ¬ (d.query q).form.IsSelect := by
    rw [form]
    exact id
  rcases h.visitQuery_rewrites there r with ⟨formless | ⟨select, -⟩, -⟩ | ⟨es, -, outcome⟩
  · rw [form] at formless
    cases formless
  · exact absurd select other
  · rw [Draft.revise_eq_self d q _ (Provider.visitedAll_of_not_select ps q _ other)] at outcome
    exact ⟨es, outcome⟩

theorem OfDomains.unmarked_visitQuery (h : p.OfDomains ps) (there : d.HasQuery q) (r : Request)
    (select : (d.query q).form.IsSelect) (none : d.listsSites q = false) :
    ∃ d', (p.visitQuery r q).run d = .ok () d' ∧
      (d'.query q).namespaces = (d.query q).namespaces ∧
      (d'.query q).form = (d.query q).form ∧ ∀ v, d'.expression? v = d.expression? v := by
  have visit := h.visitQuery_rewrites there r
  have framed := h.framed_visitQuery r q d
  rw [none] at visit
  rcases visit with ⟨formless | ⟨-, lists⟩, -⟩ | ⟨es, -, outcome⟩
  · rw [formless] at select
    exact select.elim
  · cases lists
  · have query := h.query_visitQuery there outcome
    rw [none] at query
    rw [outcome] at framed
    obtain ⟨namespaces, form⟩ := Provider.visitedAll_false ps q (d.query q)
    refine ⟨_, outcome, by rw [query, namespaces], by rw [query, form], fun v => ?_⟩
    by_cases here : v.query = q
    · subst here
      rw [Draft.expression?, Draft.expression?, query]
      exact Provider.expression_visitedAll (fun found => absurd found Bool.false_ne_true) _ _
    · have same := framed.others _ here
      rw [Edit.left] at same
      rw [Draft.expression?, Draft.expression?, same]

theorem OfDomains.marked_visitQuery (made : p.OfDomains ps) {c : Composition} (h : c.Reachable)
    (there : c.draft.HasQuery q) {r : Request} (select : (c.draft.query q).form.IsSelect)
    (asked : c.draft.AsksForSites q) (returned : (p.visitQuery r q).run c.draft = .ok () d') :
    c.draft.Marked q ps d' := by
  have framed := made.framed_visitQuery r q c.draft
  rw [returned] at framed
  have query := made.query_visitQuery there returned
  rw [(listsSites_iff_asks h there).mpr asked] at query
  exact made.marked select (h.nodup_projection there) framed query

/-- Whatever comes of a visit of a pipeline of providers, the groups, the other queries and, but for
the projection, the form of the query stay. Only a SELECT query that asks for the measurement sites
is marked; when the visit returns, it carries the marks of all providers and nothing else new. -/
theorem visitQuery_effect {c : Composition} (h : c.Reachable) (there : c.draft.HasQuery q)
    (made : p.OfDomains ps) (r : Request) :
    c.draft.Frame q (Edit.left ((p.visitQuery r q).run c.draft)) ∧
    (∀ template, (c.draft.query q).form = .construct template →
      ∃ es, (p.visitQuery r q).run c.draft =
        .ok () { c.draft with journal := c.draft.journal ++ es }) ∧
    ((c.draft.query q).form.IsSelect → ¬ c.draft.AsksForSites q →
      ∃ d', (p.visitQuery r q).run c.draft = .ok () d' ∧
        (d'.query q).namespaces = (c.draft.query q).namespaces ∧
        (d'.query q).form = (c.draft.query q).form ∧
        ∀ v, d'.expression? v = c.draft.expression? v) ∧
    ((c.draft.query q).form.IsSelect → c.draft.AsksForSites q →
      ∀ d', (p.visitQuery r q).run c.draft = .ok () d' → c.draft.Marked q ps d') := by
  refine ⟨made.framed_visitQuery r q c.draft, ?_, ?_, ?_⟩
  · intro template form
    exact made.idle_of_construct there r form
  · intro select none
    have lists : c.draft.listsSites q = false := by
      simpa using mt (listsSites_iff_asks h there).mp none
    exact made.unmarked_visitQuery there r select lists
  · intro select asked d' returned
    exact made.marked_visitQuery h there select asked returned

theorem asksForSites_sites : sites.draft.AsksForSites ⟨0⟩ :=
  (listsSites_iff_asks reachable_sites hasQuery_sites).mp (by decide +kernel)

theorem visitQuery_effect_sites :
    ∃ d', (bothDomains.visitQuery ⟨"sites", []⟩ ⟨0⟩).run sites.draft = .ok () d' ∧
      sites.draft.Marked ⟨0⟩ [.water, .air] d' := by
  obtain ⟨d', returned⟩ := returns_bothDomains
  obtain ⟨-, -, -, marked⟩ := visitQuery_effect reachable_sites hasQuery_sites
    ofDomains_bothDomains ⟨"sites", []⟩
  exact ⟨d', returned, marked isSelect_sites asksForSites_sites d' returned⟩

end Pipeline

end SparqlCompose
