import SparqlCompose.Proofs.Pipeline.Visit

namespace SparqlCompose

namespace Provider

/-- A further visit of the provider finds all that it would add. -/
def Settled (p : Provider) (sites : Bool) (query : Query) : Prop :=
  query.form.IsSelect → query.Registered ∧ (sites → p.Marked query)

variable {p other : Provider} {sites : Bool} {query : Query}

theorem Marks.settled_visited (marks : p.Marks) (q : QueryId) (sites : Bool) (query : Query) :
    p.Settled sites (p.visited q sites query) := by
  intro still
  have select : query.form.IsSelect := (p.alike_visited q sites query).isSelect.mp still
  rw [visited, if_pos select]
  have registered := query.registered_register
  cases sites with
  | false => exact ⟨registered, fun found => absurd found Bool.false_ne_true⟩
  | true => exact ⟨registered.flagged marks q, fun _ => p.marked_flagged q select⟩

theorem Settled.visited (h : p.Settled sites query) (apart : p.Apart other) (marks : other.Marks)
    (q : QueryId) : p.Settled sites (other.visited q sites query) := by
  intro still
  have select : query.form.IsSelect := (other.alike_visited q sites query).isSelect.mp still
  obtain ⟨-, marked⟩ := h select
  rw [Provider.visited, if_pos select]
  have registered := query.registered_register
  cases sites with
  | false => exact ⟨registered, fun found => absurd found Bool.false_ne_true⟩
  | true =>
    refine ⟨registered.flagged marks q, fun _ => ?_⟩
    exact (marked rfl).register.flagged select apart.short apart.flagIdentifier_ne

theorem Settled.visitedAll {ps : List Provider} (h : p.Settled sites query)
    (apart : ∀ x ∈ ps, p.Apart x) (marks : ∀ x ∈ ps, x.Marks) (q : QueryId) :
    p.Settled sites (visitedAll ps q sites query) := by
  induction ps generalizing query with
  | nil => exact h
  | cons x ps ih =>
    have first := h.visited (apart x (by simp)) (marks x (by simp)) q
    exact ih first (fun y member => apart y (by simp [member]))
      fun y member => marks y (by simp [member])

theorem settled_visitedAll {ps : List Provider} (apart : ps.Pairwise Apart)
    (marks : ∀ x ∈ ps, x.Marks) (q : QueryId) (sites : Bool) (query : Query) :
    ∀ x ∈ ps, x.Settled sites (visitedAll ps q sites query) := by
  induction ps generalizing query with
  | nil => exact nofun
  | cons y ps ih =>
    have later : ∀ x ∈ ps, x.Marks := fun x member => marks x (by simp [member])
    obtain ⟨first, rest⟩ := List.pairwise_cons.mp apart
    intro x member
    rcases List.mem_cons.mp member with rfl | member
    · -- its own visit settles the query, and the later ones keep their hands off
      exact ((marks x (by simp)).settled_visited q sites query).visitedAll first later q
    · exact ih rest later _ x member

theorem Settled.visited_eq (h : p.Settled sites query) (q : QueryId) :
    p.visited q sites query = query := by
  by_cases select : query.form.IsSelect
  · obtain ⟨registered, marked⟩ := h select
    rw [Provider.visited, if_pos select, registered.register_eq]
    cases sites with
    | false => rfl
    | true => exact (marked rfl).flagged_eq
  · rw [Provider.visited, if_neg select]

theorem Settled.agrees (h : p.Settled sites query) (select : query.form.IsSelect)
    (lists : sites) : p.Agrees query.register := ((h select).2 lists).register.agrees

end Provider

namespace Pipeline

variable {p : Pipeline} {ps : List Provider} {d d' : Draft} {q : QueryId}

theorem visitOf_formless (r : Request) (x : Provider) (formless : (d.query q).form = .formless) :
    (visitOf r q x).run d = .error .unsupported d := by
  rw [visitOf, EStateM.run_bind, run_reportVisit_formless r _ formless]

theorem OfDomains.form_ne_formless {r : Request} (h : p.OfDomains ps)
    (returned : (p.visitQuery r q).run d = .ok () d') {x : Provider} (member : x ∈ ps) :
    (d.query q).form ≠ .formless := by
  intro formless
  rw [h.visitQuery_eq] at returned
  cases ps with
  | nil => cases member
  | cons y ps =>
    have run : ((y :: ps).forM (visitOf r q)).run d = .error .unsupported d := by
      rw [List.forM_eq_forM, List.forM_cons, EStateM.run_bind, visitOf_formless r y formless]
    rw [run] at returned
    cases returned

theorem OfDomains.quiet_visitQuery (h : p.OfDomains ps) (there : d.HasQuery q) (r : Request)
    (settled : ∀ x ∈ ps, x.Settled (d.listsSites q) (d.query q))
    (formed : ∀ x ∈ ps, (d.query q).form ≠ .formless) :
    ∃ es : Array Entry, (∀ entry ∈ es, entry.level = .debug) ∧
      (p.visitQuery r q).run d = .ok () (d.recordAll es) := by
  have loop : (p.visitQuery r q).Rewrites False q
      (fun query => ps.foldl (fun query _ => query) query) () d := by
    rw [h.visitQuery_eq]
    refine Edit.Rewrites.forM (I := fun now => ∃ es, now = d.recordAll es) ?_ ?_ ⟨#[], by simp⟩
    · rintro x member now ⟨es, rfl⟩
      have visit := visitOf_rewrites (h.marks x member) (d := d.recordAll es) (q := q)
        (by simpa using there) r
      rw [(Draft.Frame.recordAll q d es).listsSites, Draft.query_recordAll] at visit
      refine (visit.mono ?_).congr ((settled x member).visited_eq q)
      rintro (formless | ⟨select, sites, conflict⟩)
      · exact formed x member formless
      · exact conflict ((settled x member).agrees select sites)
    · rintro x member now es ⟨fs, rfl⟩
      exact ⟨fs ++ es, by rw [Draft.revise_eq_self _ q _ rfl, Draft.recordAll_recordAll]⟩
  rcases loop with ⟨trouble, -⟩ | ⟨es, levels, outcome⟩
  · exact trouble.elim
  · refine ⟨es, levels not_false, ?_⟩
    rw [outcome, Draft.revise_eq_self d q _ (List.foldl_fixed ps)]

/-- When a pipeline of providers has visited a query, visiting it again succeeds whatever the
request, warns of nothing and leaves all but the journal as it is, so the query is written as
before. -/
theorem visitQuery_idempotent (h : p.OfDomains ps) (there : d.HasQuery q) {r : Request}
    (first : (p.visitQuery r q).run d = .ok () d') (again : Request) :
    ∃ es : Array Entry, (∀ entry ∈ es, entry.level = .debug) ∧
      (p.visitQuery again q).run d' = .ok () { d' with journal := d'.journal ++ es } ∧
      ∀ indent, Draft.sparql { d' with journal := d'.journal ++ es } indent q =
        d'.sparql indent q := by
  have framed := h.framed_visitQuery r q d
  rw [first] at framed
  have now : d.Frame q d' := framed
  have query := h.query_visitQuery there first
  have settled : ∀ x ∈ ps, x.Settled (d'.listsSites q) (d'.query q) := by
    rw [query, now.listsSites]
    exact Provider.settled_visitedAll h.apart h.marks q _ _
  have formed : ∀ x ∈ ps, (d'.query q).form ≠ .formless := by
    intro x member formless
    exact h.form_ne_formless first member (now.alike.formless.mp formless)
  obtain ⟨es, levels, outcome⟩ := h.quiet_visitQuery ((now.hasQuery q).mpr there) again settled
    formed
  exact ⟨es, levels, outcome, fun indent => d'.sparql_recordAll es indent q⟩

theorem visitQuery_idempotent_sites :
    ∃ d', (bothDomains.visitQuery ⟨"sites", []⟩ ⟨0⟩).run sites.draft = .ok () d' ∧
      ∃ es : Array Entry, (∀ entry ∈ es, entry.level = .debug) ∧
        (bothDomains.visitQuery ⟨"again", []⟩ ⟨0⟩).run d' =
          .ok () { d' with journal := d'.journal ++ es } := by
  obtain ⟨d', returned⟩ := returns_bothDomains
  obtain ⟨es, levels, again, -⟩ :=
    visitQuery_idempotent ofDomains_bothDomains hasQuery_sites returned ⟨"again", []⟩
  exact ⟨d', returned, es, levels, again⟩

end Pipeline

end SparqlCompose
