import SparqlCompose.Proofs.Pipeline.Effect
import SparqlCompose.Proofs.Pipeline.Returning

namespace SparqlCompose

/-- Two lists that continue a third one with the same members, in any order. -/
def GrowAlike {α : Type} (old xs ys : List α) : Prop :=
  ∃ new new', xs = old ++ new ∧ ys = old ++ new' ∧ new.Perm new'

namespace GrowAlike

variable {α : Type} {old xs ys : List α}

theorem refl (old : List α) : GrowAlike old old old := ⟨[], [], by simp, by simp, .nil⟩

theorem of_append {more : List α} (h : GrowAlike (old ++ more) xs ys) : GrowAlike old xs ys := by
  obtain ⟨new, new', rfl, rfl, perm⟩ := h
  exact ⟨more ++ new, more ++ new', by simp, by simp, perm.append_left more⟩

end GrowAlike

namespace Entries

variable {α β : Type} [DecidableEq α]

structure GrowAlike (old m n : List (α × β)) : Prop where
  same : ∀ key, get? key m = get? key n
  keys : SparqlCompose.GrowAlike (keys old) (keys m) (keys n)

theorem GrowAlike.refl (m : List (α × β)) : GrowAlike m m m := ⟨fun _ => rfl, .refl _⟩

theorem growAlike_putAll {pairs pairs' : List (α × β)} (perm : pairs.Perm pairs')
    (distinct : (keys pairs).Nodup) (m : List (α × β)) :
    GrowAlike m (putAll pairs m) (putAll pairs' m) where
  same := by
    have distinct' : (keys pairs').Nodup := (perm.map Prod.fst).nodup distinct
    intro key
    by_cases bound : key ∈ keys pairs
    · obtain ⟨⟨k, value⟩, member, rfl⟩ := List.mem_map.mp bound
      rw [get?_putAll_of_mem distinct member,
        get?_putAll_of_mem distinct' (perm.subset member)]
    · have absent : key ∉ keys pairs' := fun there => bound ((perm.map Prod.fst).mem_iff.mpr there)
      rw [get?_putAll_of_not_mem bound, get?_putAll_of_not_mem absent]
  keys := by
    have distinct' : (keys pairs').Nodup := (perm.map Prod.fst).nodup distinct
    exact ⟨_, _, keys_putAll distinct m, keys_putAll distinct' m,
      (perm.map Prod.fst).filter _⟩

end Entries

structure Query.GrowAlike (old first second : Query) : Prop where
  alike : first.Alike second
  namespaces : Entries.GrowAlike old.namespaces first.namespaces second.namespaces
  asked : Entries.GrowAlike old.asked first.asked second.asked
  resources : first.resources = second.resources
  projection : SparqlCompose.GrowAlike old.form.projection first.form.projection
    second.form.projection

/-- Two drafts that come of a third one by changes to one query, and differ, if at all, in the order
of what is new to the query and in their journals. -/
structure Draft.GrowAlike (q : QueryId) (old d d' : Draft) : Prop where
  framed : old.Frame q d
  framed' : old.Frame q d'
  query : (old.query q).GrowAlike (d.query q) (d'.query q)
  expressions : ∀ v, d.expression? v = d'.expression? v

namespace Query

variable {query first second : Query}

theorem exists_keys_register (query : Query) : ∃ more,
    Entries.keys query.register.asked = Entries.keys query.asked ++ more := by
  have asked : query.register.asked = (query.ask Provider.siteIdentifier).asked := rfl
  rw [asked, ask]
  dsimp only
  split
  · exact ⟨[], (List.append_nil _).symm⟩
  · rw [Entries.keys_put]
    split
    · exact ⟨[], (List.append_nil _).symm⟩
    · exact ⟨_, rfl⟩

theorem GrowAlike.refl (query : Query) : query.GrowAlike query query where
  alike := .refl query
  namespaces := .refl _
  asked := .refl _
  resources := rfl
  projection := .refl _

theorem GrowAlike.of_register (h : query.register.GrowAlike first second) :
    query.GrowAlike first second where
  alike := h.alike
  namespaces := h.namespaces
  asked := by
    obtain ⟨more, keys⟩ := query.exists_keys_register
    have asked := h.asked
    exact ⟨asked.same, .of_append (keys ▸ asked.keys)⟩
  resources := h.resources
  projection := h.projection

end Query

namespace Provider

variable {ps ps' : List Provider} {q : QueryId} {query : Query}

theorem alike_visitedAll (ps : List Provider) (q : QueryId) (sites : Bool) (query : Query) :
    (visitedAll ps q sites query).Alike query := by
  induction ps generalizing query with
  | nil => exact .refl query
  | cons p ps ih => exact (ih _).trans (p.alike_visited q sites query)

theorem visitedAll_register (some : ps ≠ []) (q : QueryId) (sites : Bool)
    (select : query.form.IsSelect) :
    visitedAll ps q sites query.register = visitedAll ps q sites query := by
  cases ps with
  | nil => exact absurd rfl some
  | cons p ps =>
    have first : p.visited q sites query.register = p.visited q sites query := by
      have known : query.register.form.IsSelect := select
      rw [visited, visited, if_pos known, if_pos select, query.registered_register.register_eq]
    rw [visitedAll, visitedAll, List.foldl_cons, List.foldl_cons, first]

theorem visitedAll_of_registered (ps : List Provider) (q : QueryId) (known : query.Registered) :
    visitedAll ps q false query = query := by
  induction ps with
  | nil => rfl
  | cons p ps ih =>
    have settled : p.Settled false query := fun _ =>
      ⟨known, fun found => absurd found Bool.false_ne_true⟩
    have first : p.visited q false query = query := settled.visited_eq q
    rw [visitedAll, List.foldl_cons, first]
    exact ih

theorem asked_visitedAll (marks : ∀ p ∈ ps, p.Marks) (q : QueryId) (select : query.form.IsSelect)
    (known : query.Registered) :
    (visitedAll ps q true query).asked =
        Entries.putAll (ps.map fun p => (p.flagIdentifier, some p.mark)) query.asked ∧
      (visitedAll ps q true query).resources = query.resources := by
  induction ps generalizing query with
  | nil => exact ⟨rfl, rfl⟩
  | cons p ps ih =>
    have first : p.visited q true query = p.flagged q query := by
      rw [visited, if_pos select, if_pos rfl, known.register_eq]
    rw [visitedAll, List.foldl_cons, first]
    exact ih (fun x member => marks x (by simp [member]))
      ((p.alike_flagged q query).isSelect.mpr select) (known.flagged (marks p (by simp)) q)

end Provider

namespace Pipeline

variable {p p' : Pipeline} {ps ps' : List Provider} {q : QueryId} {query : Query} {d d₁ d₂ : Draft}

theorem OfDomains.nodup_keys_marks (h : p.OfDomains ps) :
    (Entries.keys (ps.map fun x => (x.flagIdentifier, some x.mark))).Nodup := by
  rw [Entries.keys, List.map_map]
  exact List.pairwise_map.mpr (h.apart.imp fun apart => apart.flagIdentifier_ne)

theorem OfDomains.growAlike_of_registered (h : p.OfDomains ps) (h' : p'.OfDomains ps')
    (perm : ps.Perm ps') (q : QueryId) (sites : Bool) (select : query.form.IsSelect)
    (known : query.Registered) (distinct : (identifiers query.form.projection).Nodup) :
    query.GrowAlike (Provider.visitedAll ps q sites query)
      (Provider.visitedAll ps' q sites query) := by
  cases sites with
  | false =>
    rw [Provider.visitedAll_of_registered ps q known, Provider.visitedAll_of_registered ps' q known]
    exact .refl query
  | true =>
    obtain ⟨asked, resources⟩ := Provider.asked_visitedAll h.marks q select known
    obtain ⟨asked', resources'⟩ := Provider.asked_visitedAll h'.marks q select known
    refine ⟨?_, ?_, ?_, ?_, ?_⟩
    · exact (Provider.alike_visitedAll ps q true query).trans
        (Provider.alike_visitedAll ps' q true query).symm
    · rw [Provider.namespaces_visitedAll ps q select, Provider.namespaces_visitedAll ps' q select]
      exact Entries.growAlike_putAll (perm.map _) h.nodup_keys_spaces _
    · rw [asked, asked']
      exact Entries.growAlike_putAll (perm.map _) h.nodup_keys_marks _
    · rw [resources, resources']
    · rw [Provider.projection_visitedAll ps q select distinct,
        Provider.projection_visitedAll ps' q select distinct, foldl_joined (h.nodup_flags q),
        foldl_joined (h'.nodup_flags q)]
      exact ⟨_, _, rfl, rfl, (perm.map _).filter _⟩

theorem OfDomains.growAlike_visitedAll (h : p.OfDomains ps) (h' : p'.OfDomains ps')
    (perm : ps.Perm ps') (q : QueryId) (sites : Bool)
    (distinct : (identifiers query.form.projection).Nodup) :
    query.GrowAlike (Provider.visitedAll ps q sites query)
      (Provider.visitedAll ps' q sites query) := by
  by_cases select : query.form.IsSelect
  case neg =>
    rw [Provider.visitedAll_of_not_select ps q sites select,
      Provider.visitedAll_of_not_select ps' q sites select]
    exact .refl query
  -- without a provider nothing makes the terms known
  by_cases none : ps = []
  · subst none
    rw [← perm.nil_eq]
    exact .refl _
  have none' : ps' ≠ [] := fun empty => none (empty ▸ perm).eq_nil
  rw [← Provider.visitedAll_register none q sites select,
    ← Provider.visitedAll_register none' q sites select]
  apply Query.GrowAlike.of_register
  exact h.growAlike_of_registered h' perm q sites select query.registered_register distinct

theorem OfDomains.growAlike_visitQuery (h : p.OfDomains ps) (h' : p'.OfDomains ps')
    (perm : ps.Perm ps') (there : d.HasQuery q)
    (distinct : (identifiers (d.query q).form.projection).Nodup) {r : Request}
    (returned : (p.visitQuery r q).run d = .ok () d₁)
    (returned' : (p'.visitQuery r q).run d = .ok () d₂) : d.GrowAlike q d₁ d₂ := by
  have framed := h.framed_visitQuery r q d
  have framed' := h'.framed_visitQuery r q d
  rw [returned] at framed
  rw [returned'] at framed'
  have query := h.growAlike_visitedAll h' perm q (d.listsSites q) distinct
  rw [← h.query_visitQuery there returned, ← h'.query_visitQuery there returned'] at query
  refine ⟨framed, framed', query, fun v => ?_⟩
  by_cases here : v.query = q
  · rw [Draft.expression?, Draft.expression?, here]
    exact congrArg Option.join (query.asked.same v.identifier)
  · rw [Draft.expression?, Draft.expression?]
    exact congrArg (fun query : Query => (Entries.get? v.identifier query.asked).join)
      ((framed.others _ here).trans (framed'.others _ here).symm)

/-- Pipelines of the same providers, in any two orders, visit a query: one visit returns if and only
if the other does, and then they leave the same but for the order of what they added. -/
theorem providers_commute {c : Composition} (h : c.Reachable) (there : c.draft.HasQuery q)
    (made : p.OfDomains ps) (made' : p'.OfDomains ps') (perm : ps.Perm ps') (r : Request) :
    ((p.visitQuery r q).Returns c.draft ↔ (p'.visitQuery r q).Returns c.draft) ∧
      ∀ d₁ d₂, (p.visitQuery r q).run c.draft = .ok () d₁ →
        (p'.visitQuery r q).run c.draft = .ok () d₂ → c.draft.GrowAlike q d₁ d₂ := by
  constructor
  · rw [made.returns_visitQuery there, made'.returns_visitQuery there]
    exact forall_congr' fun x => by rw [perm.mem_iff]
  · intro d₁ d₂ returned returned'
    exact made.growAlike_visitQuery made' perm there (h.nodup_projection there) returned returned'

def contesting : List Operation :=
  [.addProjection ⟨0⟩ (.ofTerm (.variable ⟨⟨0⟩, Provider.siteIdentifier⟩)),
   .bindNamespace ⟨0⟩ Provider.air.short "urn:air"]

def bothReversed : Pipeline :=
  ⟨[Provider.air.toModule, Provider.water.toModule], bothDomains.services⟩

theorem ofDomains_bothReversed : bothReversed.OfDomains [.air, .water] where
  modules := rfl
  known := by simp
  distinct := by decide

theorem providers_commute_contested :
    sites.Admits contesting ∧ [Provider.water, .air].Perm [.air, .water] ∧
      ∃ d₁ d₂,
        (bothDomains.visitQuery ⟨"visit", []⟩ ⟨0⟩).run (sites.replay contesting).draft =
          .ok () d₁ ∧
        (bothReversed.visitQuery ⟨"visit", []⟩ ⟨0⟩).run (sites.replay contesting).draft =
          .ok () d₂ ∧
        (sites.replay contesting).draft.GrowAlike ⟨0⟩ d₁ d₂ := by
  have facts : sites.Admits contesting ∧ (sites.replay contesting).draft.HasQuery ⟨0⟩ ∧
      ((sites.replay contesting).draft.query ⟨0⟩).form.IsSelect ∧
      ((sites.replay contesting).draft.query ⟨0⟩).strict = false ∧
      ∀ i ∈ [Provider.water.flagIdentifier, Provider.air.flagIdentifier],
        Entries.get? i ((sites.replay contesting).draft.query ⟨0⟩).asked ≠ some none := by
    decide +kernel
  obtain ⟨admits, there, select, lenient, free⟩ := facts
  have reached : (sites.replay contesting).Reachable :=
    Relation.ReflTransGen.trans reachable_sites (Composition.replay_later admits)
  have perm : [Provider.water, .air].Perm [.air, .water] := .swap ..
  obtain ⟨both, same⟩ := providers_commute reached there ofDomains_bothDomains
    ofDomains_bothReversed perm ⟨"visit", []⟩
  have welcome : ∀ x ∈ [Provider.water, .air], (sites.replay contesting).draft.Welcomes ⟨0⟩ x := by
    intro x member
    refine ⟨fun formless => (formless ▸ select).elim, fun _ _ => ⟨?_, ?_, ?_⟩⟩
    · exact free x.flagIdentifier (List.mem_map_of_mem member)
    · simp [lenient]
    · simp [lenient]
  obtain ⟨⟨⟩, d₁, returned⟩ :=
    (ofDomains_bothDomains.returns_visitQuery there ⟨"visit", []⟩).mpr welcome
  obtain ⟨⟨⟩, d₂, returned'⟩ := both.mp ⟨(), d₁, returned⟩
  exact ⟨admits, perm, d₁, d₂, returned, returned', same d₁ d₂ returned returned'⟩

end Pipeline

end SparqlCompose
