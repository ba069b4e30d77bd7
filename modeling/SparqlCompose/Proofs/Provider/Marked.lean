import SparqlCompose.Proofs.Draft.Projection
import SparqlCompose.Proofs.Provider.SiteFlag

namespace SparqlCompose

namespace Query

structure Registered (query : Query) : Prop where
  site : Entries.get? Provider.siteIdentifier query.asked ≠ none
  type : Provider.typeIdentifier ∈ query.resources
  siteClass : Provider.siteClassIdentifier ∈ query.resources

theorem registered_register (query : Query) : query.register.Registered where
  site := get?_ask_self Provider.siteIdentifier query
  type := (mem_meet _).mpr (.inl ((mem_meet _).mpr (.inr rfl)))
  siteClass := (mem_meet _).mpr (.inr rfl)

theorem Registered.register_eq {query : Query} (h : query.Registered) : query.register = query := by
  obtain ⟨known, there⟩ := Option.ne_none_iff_exists'.mp h.site
  have asked : query.ask Provider.siteIdentifier = query := by simp only [ask, there]
  have type : query.meet Provider.typeIdentifier = query := by simp only [meet, h.type, if_true]
  have siteClass : query.meet Provider.siteClassIdentifier = query := by
    simp only [meet, h.siteClass, if_true]
  rw [register, asked, type, siteClass]

end Query

namespace Provider

/-- The query carries the mark of the provider. -/
structure Marked (p : Provider) (query : Query) : Prop where
  bound : Entries.get? p.short query.namespaces = some p.space
  expressed : Entries.get? p.flagIdentifier query.asked = some (some p.mark)
  projected : p.flagIdentifier ∈ identifiers query.form.projection
  distinct : (identifiers query.form.projection).Nodup

variable {p other : Provider} {q : QueryId} {query : Query}

theorem Marked.agrees (h : p.Marked query) : p.Agrees query where
  namespaces := by simp [Query.prefixConflict?, h.bound]
  free := by simp [h.expressed]
  expression := by
    have expressed := h.expressed
    rw [flagIdentifier] at expressed
    simp [Query.aliasConflict?, expressed]

theorem Marked.flagged_eq (h : p.Marked query) : p.flagged q query = query := by
  have bound : query.bind p.short p.space = query := by
    rw [Query.bind, Entries.put_of_get? h.bound]
  have expressed : query.express p.flagIdentifier p.mark = query := by
    rw [Query.express, Entries.put_of_get? h.expressed]
  have kept : Draft.keepFirst (query.form.projection ++ [p.flagFor q]) = query.form.projection := by
    have there : (p.flagFor q).identifier ∈ identifiers query.form.projection := h.projected
    rw [keepFirst_append h.distinct, joined, if_pos there]
  have form : query.form.withProjection query.form.projection = query.form := by
    cases query.form <;> rfl
  rw [flagged, bound, expressed, Query.join, Query.reform, kept, form]

theorem projection_flagged (p : Provider) (q : QueryId) (select : query.form.IsSelect) :
    (p.flagged q query).form.projection =
      Draft.keepFirst (query.form.projection ++ [p.flagFor q]) :=
  select.projection_withProjection _

theorem marked_flagged (p : Provider) (q : QueryId) (select : query.form.IsSelect) :
    p.Marked (p.flagged q query) where
  bound := Entries.get?_put_self p.short p.space query.namespaces
  expressed := Entries.get?_put_self p.flagIdentifier (some p.mark) query.asked
  projected := by
    rw [projection_flagged p q select, mem_identifiers_keepFirst, identifiers_append]
    exact List.mem_append_right _ (List.mem_singleton.mpr rfl)
  distinct := by
    rw [projection_flagged p q select]
    exact nodup_keepFirst _

theorem Marked.flagged (h : p.Marked query) (select : query.form.IsSelect)
    (short : p.short ≠ other.short) (flag : p.flagIdentifier ≠ other.flagIdentifier) :
    p.Marked (other.flagged q query) where
  bound := (Entries.get?_put_ne short other.space query.namespaces).trans h.bound
  expressed := (Entries.get?_put_ne flag (some other.mark) query.asked).trans h.expressed
  projected := by
    rw [projection_flagged other q select, mem_identifiers_keepFirst, identifiers_append]
    exact List.mem_append_left _ h.projected
  distinct := (marked_flagged other q select).distinct

theorem Marked.register (h : p.Marked query) : p.Marked query.register where
  bound := h.bound
  expressed := Query.get?_ask_of_some query h.expressed
  projected := h.projected
  distinct := h.distinct

end Provider

namespace Query

theorem Registered.flagged {query : Query} (h : query.Registered) {p : Provider} (marks : p.Marks)
    (q : QueryId) : (p.flagged q query).Registered where
  site := by
    have kept : Entries.get? Provider.siteIdentifier (p.flagged q query).asked =
        Entries.get? Provider.siteIdentifier query.asked :=
      Entries.get?_put_ne marks.flagIdentifier_ne.symm _ _
    rw [kept]
    exact h.site
  type := h.type
  siteClass := h.siteClass

end Query

end SparqlCompose
