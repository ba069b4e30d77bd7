import SparqlCompose.Proofs.Pipeline.Visit

namespace SparqlCompose

namespace Edit

def Returns {α : Type} (e : Edit α) (d : Draft) : Prop := ∃ a d', e.run d = .ok a d'

variable {α β : Type} {d d' : Draft} {q : QueryId} {a : α} {e : Edit α}

theorem not_returns_of_error {failure : Failure} (run : e.run d = .error failure d') :
    ¬ e.Returns d := by
  rintro ⟨a, left, returned⟩
  rw [run] at returned
  cases returned

theorem returns_bind_iff {k : α → Edit β} (run : e.run d = .ok a d') :
    (e >>= k).Returns d ↔ (k a).Returns d' := by
  simp only [Returns, EStateM.run_bind, run]

theorem Rewrites.returns {trouble : Prop} {f : Query → Query} (h : e.Rewrites trouble q f a d)
    (none : ¬ trouble) : e.Returns d := by
  rcases h with ⟨trouble, -⟩ | ⟨es, -, outcome⟩
  · exact absurd trouble none
  · exact ⟨a, _, outcome⟩

theorem Rewrites.returns_bind {trouble : Prop} {f : Query → Query} {k : α → Edit β}
    (first : e.Rewrites trouble q f a d) (follows : Prop)
    (rest : ∀ es, (k a).Returns ((d.revise q f).recordAll es) ↔ follows) :
    (e >>= k).Returns d ↔ e.Returns d ∧ follows := by
  rcases first with ⟨-, failure, d', failed⟩ | ⟨es, -, outcome⟩
  · have bound : (e >>= k).run d = .error failure d' := by rw [EStateM.run_bind, failed]
    exact iff_of_false (not_returns_of_error bound) fun both => not_returns_of_error failed both.1
  · rw [returns_bind_iff outcome, rest]
    exact (and_iff_right ⟨a, _, outcome⟩).symm

theorem returns_of_settling {conflict? : Option Conflict} {f : Query → Query}
    (run : e.run d = d.settling q conflict? a f) :
    e.Returns d ↔ ((d.query q).strict = true → conflict? = none) := by
  cases conflict? with
  | none => exact iff_of_true ⟨_, _, run⟩ fun _ => rfl
  | some c =>
    cases strict : (d.query q).strict with
    | true =>
      rw [Draft.settling, if_pos strict] at run
      exact iff_of_false (not_returns_of_error run) (by simp)
    | false =>
      rw [Draft.settling, if_neg (by simp [strict])] at run
      exact iff_of_true ⟨_, _, run⟩ (by simp)

theorem returns_expression {text : String} {c : Computed} (read : Computed.ofText? text = some c)
    (select : (d.query q).form.IsSelect) :
    (expression q (some text)).Returns d ↔
      Entries.get? (sharedIdentifier c.name) (d.query q).asked ≠ some none ∧
        ((d.query q).strict = true → (d.query q).aliasConflict? c = none) := by
  have run := run_expression d q (some text)
  rw [if_pos select, Option.bind_some, read] at run
  dsimp only at run
  by_cases taken : Entries.get? (sharedIdentifier c.name) (d.query q).asked = some none
  · rw [if_pos taken] at run
    exact iff_of_false (not_returns_of_error run) fun both => both.1 taken
  · rw [if_neg taken] at run
    rw [returns_of_settling run]
    exact (and_iff_right taken).symm

end Edit

namespace Provider

/-- The query takes the mark of the provider, if need be with a warning. -/
structure Admitted (p : Provider) (query : Query) : Prop where
  free : Entries.get? p.flagIdentifier query.asked ≠ some none
  namespaces : query.strict = true → query.prefixConflict? p.short p.space = none
  expression : query.strict = true → query.aliasConflict? ⟨p.mark, p.flag⟩ = none

variable {p other : Provider} {query changed : Query} {d : Draft} {q : QueryId}

theorem Admitted.of_same (h : p.Admitted query) (strict : changed.strict = query.strict)
    (short : Entries.get? p.short changed.namespaces = Entries.get? p.short query.namespaces)
    (flag : Entries.get? p.flagIdentifier changed.asked =
      Entries.get? p.flagIdentifier query.asked) :
    p.Admitted changed where
  free := by
    rw [flag]
    exact h.free
  namespaces := by
    rw [strict, Query.prefixConflict?, short]
    exact h.namespaces
  expression := by
    rw [flagIdentifier] at flag
    rw [strict, Query.aliasConflict?, flag]
    exact h.expression

theorem admitted_congr (strict : changed.strict = query.strict)
    (short : Entries.get? p.short changed.namespaces = Entries.get? p.short query.namespaces)
    (flag : Entries.get? p.flagIdentifier changed.asked =
      Entries.get? p.flagIdentifier query.asked) :
    p.Admitted changed ↔ p.Admitted query :=
  ⟨fun h => h.of_same strict.symm short.symm flag.symm, fun h => h.of_same strict short flag⟩

theorem returns_addSiteFlag (marks : p.Marks) (there : d.HasQuery q)
    (select : (d.query q).form.IsSelect) :
    (p.addSiteFlag q).Returns d ↔ p.Admitted (d.query q) := by
  rw [addSiteFlag, (Edit.rewrites_bindNamespace p.short p.space q d).returns_bind
      (Entries.get? p.flagIdentifier (d.query q).asked ≠ some none ∧
        ((d.query q).strict = true → (d.query q).aliasConflict? ⟨p.mark, p.flag⟩ = none)),
    Edit.returns_of_settling (Edit.run_bindNamespace d q p.short p.space)]
  · exact ⟨fun h => ⟨h.2.1, h.1, h.2.2⟩, fun h => ⟨h.namespaces, h.free, h.expression⟩⟩
  intro es
  have now : ((d.revise q (·.bind p.short p.space)).recordAll es).query q =
      (d.query q).bind p.short p.space := Draft.query_revise d q _ there
  have still : (((d.revise q (·.bind p.short p.space)).recordAll es).query q).form.IsSelect := by
    rw [now]
    exact select
  rw [(Edit.rewrites_expression marks.read still).returns_bind True,
    Edit.returns_expression marks.read still, now, and_true]
  · rfl
  intro fs
  refine iff_true_intro ((Edit.rewrites_addProjection False _ ?_).returns not_false)
  rw [Draft.query_recordAll, Draft.query_revise _ q _ (by simpa using there)]
  exact still

end Provider

structure Draft.Welcomes (d : Draft) (q : QueryId) (x : Provider) : Prop where
  formed : (d.query q).form ≠ .formless
  admitted : (d.query q).form.IsSelect → d.listsSites q = true → x.Admitted (d.query q)

namespace Provider

variable {p other : Provider} {query : Query} {d : Draft} {q : QueryId}

theorem Marks.admitted_register (marks : p.Marks) (query : Query) :
    p.Admitted query.register ↔ p.Admitted query :=
  admitted_congr rfl rfl (query.get?_ask marks.flagIdentifier_ne)

theorem returns_visitQuery (marks : p.Marks) (there : d.HasQuery q) (r : Request) :
    (p.visitQuery r q).Returns d ↔
      ((d.query q).form.IsSelect → d.listsSites q = true → p.Admitted (d.query q)) := by
  by_cases select : (d.query q).form.IsSelect
  case neg => exact iff_of_true ⟨_, _, idle_visitQuery r select⟩ fun now => absurd now select
  have run := run_visitQuery p r select
  rw [Edit.Returns, run]
  by_cases none : (d.siteGroups q).isEmpty
  · rw [if_pos none]
    exact iff_of_true ⟨_, _, rfl⟩ (by simp [Draft.listsSites, none])
  · rw [if_neg none]
    generalize (⟨.debug, r.mark s!"{p.name} updating query"⟩ : Entry) = entry
    have known : ((d.record entry).revise q Query.register).query q = (d.query q).register :=
      Draft.query_revise _ q _ there
    have added := returns_addSiteFlag (d := (d.record entry).revise q Query.register) marks
      (by simpa using there) (by rw [known]; exact select)
    rw [known, marks.admitted_register] at added
    exact added.trans (by simp [Draft.listsSites, none, select])

theorem Marks.admitted_visited (marks : p.Marks) (apart : p.Apart other) (q : QueryId)
    (sites : Bool) (query : Query) : p.Admitted (other.visited q sites query) ↔ p.Admitted query := by
  rw [visited]
  split
  · split
    · have flagged : p.Admitted (other.flagged q query.register) ↔ p.Admitted query.register :=
        admitted_congr rfl (Entries.get?_put_ne apart.short other.space _)
          (Entries.get?_put_ne apart.flagIdentifier_ne (some other.mark) _)
      exact flagged.trans (marks.admitted_register query)
    · exact marks.admitted_register query
  · rfl

end Provider

namespace Pipeline

variable {p : Pipeline} {ps : List Provider} {x other : Provider} {d : Draft} {q : QueryId}

theorem returns_reportVisit (r : Request) (q : QueryId) (m : Module) (d : Draft) :
    (reportVisit r q m).Returns d ↔ (d.query q).form ≠ .formless := by
  constructor
  · intro returned formless
    exact Edit.not_returns_of_error (run_reportVisit_formless r m formless) returned
  · exact fun formed => (reportVisit_rewrites r q m d).returns formed

theorem returns_visitOf (marks : x.Marks) (there : d.HasQuery q) (r : Request) :
    (visitOf r q x).Returns d ↔ d.Welcomes q x := by
  rw [visitOf, (reportVisit_rewrites r q x.toModule d).returns_bind
      ((d.query q).form.IsSelect → d.listsSites q = true → x.Admitted (d.query q)),
    returns_reportVisit]
  · exact ⟨fun h => ⟨h.1, h.2⟩, fun h => ⟨h.formed, h.admitted⟩⟩
  intro es
  rw [Draft.revise_eq_self d q id rfl]
  have visit := Provider.returns_visitQuery marks (d := d.recordAll es) (by simpa using there) r
  rw [(Draft.Frame.recordAll q d es).listsSites, Draft.query_recordAll] at visit
  exact visit

theorem welcomes_visited (marks : x.Marks) (apart : x.Apart other) (there : d.HasQuery q)
    (sites : Bool) (es : Array Entry) :
    ((d.revise q (other.visited q sites)).recordAll es).Welcomes q x ↔ d.Welcomes q x := by
  have framed : d.Frame q ((d.revise q (other.visited q sites)).recordAll es) :=
    (Draft.Frame.revise d (other.alike_visited q sites)).trans (.recordAll q _ es)
  have query : ((d.revise q (other.visited q sites)).recordAll es).query q =
      other.visited q sites (d.query q) := Draft.query_revise d q _ there
  have admitted : x.Admitted (((d.revise q (other.visited q sites)).recordAll es).query q) ↔
      x.Admitted (d.query q) := by
    rw [query]
    exact marks.admitted_visited apart q sites _
  constructor
  · rintro ⟨formed, welcome⟩
    rw [Ne, framed.alike.formless] at formed
    rw [framed.alike.isSelect, framed.listsSites, admitted] at welcome
    exact ⟨formed, welcome⟩
  · rintro ⟨formed, welcome⟩
    rw [← framed.alike.isSelect, ← framed.listsSites, ← admitted] at welcome
    exact ⟨framed.alike.formless.not.mpr formed, welcome⟩

theorem OfDomains.returns_visitQuery (h : p.OfDomains ps) (there : d.HasQuery q) (r : Request) :
    (p.visitQuery r q).Returns d ↔ ∀ x ∈ ps, d.Welcomes q x := by
  rw [h.visitQuery_eq]
  have marks := h.marks
  have apart := h.apart
  clear h
  induction ps generalizing d with
  | nil => exact iff_of_true ⟨(), d, rfl⟩ nofun
  | cons x ps ih =>
    obtain ⟨others, apart⟩ := List.pairwise_cons.mp apart
    have later : ∀ y ∈ ps, y.Marks := fun y member => marks y (by simp [member])
    have first := visitOf_rewrites (marks x (by simp)) there r
    have loop : (x :: ps).forM (visitOf r q) =
        visitOf r q x >>= fun _ => ps.forM (visitOf r q) := rfl
    rw [loop, first.returns_bind (∀ y ∈ ps, d.Welcomes q y),
      returns_visitOf (marks x (by simp)) there, List.forall_mem_cons]
    intro es
    refine (ih (by simpa using there) later apart).trans (forall₂_congr fun y member => ?_)
    exact welcomes_visited (later y member) (others y member).symm there _ es

end Pipeline

end SparqlCompose
