import SparqlCompose.Proofs.Pipeline.Effect
import SparqlCompose.Proofs.Variables.Names

namespace SparqlCompose

namespace Draft

/-- The solutions of the query have a column of the name: the projection has it, or there is none
and the body has it. -/
def Selects (d : Draft) (q : QueryId) (name : String) : Prop :=
  (∃ v ∈ (d.query q).form.projection, v.name = name) ∨
    (d.query q).form.projection = [] ∧ d.Mentions q name

variable {d d' : Draft} {q : QueryId} {name : String}

theorem Frame.mentions (h : d.Frame q d') : d'.Mentions q name ↔ d.Mentions q name := by
  simp only [Mentions, Encloses, h.contains, h.group_eq, h.alike.body]

theorem AsksForSites.mentions (h : d.AsksForSites q) : d.Mentions q Vocabulary.site := by
  obtain ⟨g, below, x, member, site, type, siteClass, subject, same, -⟩ := h
  refine ⟨g, below, x, member, site, ?_, ?_⟩
  · simp [Pattern.variables, subject, Term.variable?]
  · rw [Variable.name, same]
    rfl

theorem Selects.of_projection_eq (h : d.Selects q name) (framed : d.Frame q d')
    (same : (d'.query q).form.projection = (d.query q).form.projection) :
    d'.Selects q name := by
  rw [Selects, same, framed.mentions]
  exact h

end Draft

namespace Pipeline

variable {p : Pipeline} {ps : List Provider} {d' : Draft} {q : QueryId}

theorem OfDomains.not_selects_site (made : p.OfDomains ps) {d : Draft}
    (marked : d.Marked q ps d') (bare : (d.query q).form.projection = []) (some : ps ≠ []) :
    ¬ d'.Selects q Vocabulary.site := by
  have projection : (d'.query q).form.projection = ps.map (·.flagFor q) := by
    rw [marked.projection, bare]
    simp [identifiers]
  rintro (⟨v, member, name⟩ | ⟨empty, -⟩)
  · rw [projection] at member
    obtain ⟨x, hx, rfl⟩ := List.mem_map.mp member
    exact (made.marks x hx).apart name
  · rw [projection, List.map_eq_nil_iff] at empty
    exact some empty

/-- A visit that returns keeps every column of a SELECT query, unless the query has no projection,
asks for the measurement sites, and is visited by any provider at all. -/
theorem visitQuery_keeps_columns_iff {c : Composition} (h : c.Reachable)
    (there : c.draft.HasQuery q) (select : (c.draft.query q).form.IsSelect) (made : p.OfDomains ps)
    {r : Request} (returned : (p.visitQuery r q).run c.draft = .ok () d') :
    (∀ name, c.draft.Selects q name → d'.Selects q name) ↔
      ¬ ((c.draft.query q).form.projection = [] ∧ c.draft.AsksForSites q ∧ ps ≠ []) := by
  have framed := made.framed_visitQuery r q c.draft
  rw [returned] at framed
  constructor
  · rintro kept ⟨bare, asked, some⟩
    have marked := made.marked_visitQuery h there select asked returned
    have before : c.draft.Selects q Vocabulary.site := .inr ⟨bare, asked.mentions⟩
    exact made.not_selects_site marked bare some (kept _ before)
  · intro safe name selected
    by_cases asked : c.draft.AsksForSites q
    case neg =>
      have lists : c.draft.listsSites q = false := by
        simpa using mt (listsSites_iff_asks h there).mp asked
      obtain ⟨d'', again, -, form, -⟩ := made.unmarked_visitQuery there r select lists
      rw [returned] at again
      cases again
      exact selected.of_projection_eq framed (by rw [form])
    have marked := made.marked_visitQuery h there select asked returned
    -- a column of the projection stays there, one of the body needs the projection to stay empty
    rcases selected with ⟨v, member, same⟩ | ⟨bare, mentioned⟩
    · refine .inl ⟨v, ?_, same⟩
      rw [marked.projection]
      exact List.mem_append_left _ member
    · have none : ps = [] := by
        by_contra some
        exact safe ⟨bare, asked, some⟩
      subst none
      have same : (d'.query q).form.projection = (c.draft.query q).form.projection := by
        rw [marked.projection]
        simp
      exact Draft.Selects.of_projection_eq (.inr ⟨bare, mentioned⟩) framed same

theorem projection_sites : (sites.draft.query ⟨0⟩).form.projection = [] := by decide +kernel

theorem visitQuery_keeps_columns_iff_sites :
    ∃ d', (bothDomains.visitQuery ⟨"sites", []⟩ ⟨0⟩).run sites.draft = .ok () d' ∧
      ((∀ name, sites.draft.Selects ⟨0⟩ name → d'.Selects ⟨0⟩ name) ↔
        ¬ ((sites.draft.query ⟨0⟩).form.projection = [] ∧ sites.draft.AsksForSites ⟨0⟩ ∧
          [Provider.water, .air] ≠ [])) := by
  obtain ⟨d', returned⟩ := returns_bothDomains
  exact ⟨d', returned, visitQuery_keeps_columns_iff reachable_sites hasQuery_sites isSelect_sites
    ofDomains_bothDomains returned⟩

/-- The sites are a column of the query before it is visited, and none after. -/
theorem sites_column_lost :
    sites.Reachable ∧ (sites.draft.query ⟨0⟩).form.IsSelect ∧
      sites.draft.Selects ⟨0⟩ Vocabulary.site ∧
      ∃ d', (bothDomains.visitQuery ⟨"sites", []⟩ ⟨0⟩).run sites.draft = .ok () d' ∧
        ¬ d'.Selects ⟨0⟩ Vocabulary.site := by
  obtain ⟨d', returned⟩ := returns_bothDomains
  have marked := ofDomains_bothDomains.marked_visitQuery reachable_sites hasQuery_sites
    isSelect_sites asksForSites_sites returned
  have before : sites.draft.Selects ⟨0⟩ Vocabulary.site :=
    .inr ⟨projection_sites, asksForSites_sites.mentions⟩
  refine ⟨reachable_sites, isSelect_sites, before, d', returned, ?_⟩
  exact ofDomains_bothDomains.not_selects_site marked projection_sites (by simp)

end Pipeline

end SparqlCompose
