import SparqlCompose.Proofs.Composition.Change

namespace SparqlCompose

namespace Draft

/-- The second draft has the groups of the first, each with the elements it had in front. -/
structure Grows (d d' : Draft) : Prop where
  depth : d.depth ≤ d'.depth
  elements : ∀ g, (d.group g).elements <+: (d'.group g).elements
  kind : ∀ g, d.HasGroup g → (d'.group g).kind = (d.group g).kind

variable {d d' d'' : Draft}

theorem Grows.refl (d : Draft) : d.Grows d where
  depth := Nat.le_refl _
  elements := fun _ => List.prefix_refl _
  kind := fun _ _ => rfl

theorem Grows.hasGroup (h : d.Grows d') {g : GroupId} (there : d.HasGroup g) : d'.HasGroup g :=
  Nat.lt_of_lt_of_le there h.depth

theorem Grows.trans (earlier : d.Grows d') (later : d'.Grows d'') : d.Grows d'' where
  depth := Nat.le_trans earlier.depth later.depth
  elements := fun g => (earlier.elements g).trans (later.elements g)
  kind := fun g there => (later.kind g (earlier.hasGroup there)).trans (earlier.kind g there)

theorem Grows.patterns (h : d.Grows d') (g : GroupId) :
    (d.group g).patterns <+: (d'.group g).patterns :=
  (h.elements g).filterMap _

theorem Grows.groups (h : d.Grows d') (g : GroupId) :
    (d.group g).groups <+: (d'.group g).groups :=
  (h.elements g).filterMap _

theorem grows_of_groups_eq (same : d'.groups = d.groups) : d.Grows d' := by
  have group : ∀ g, d'.group g = d.group g := fun g => by rw [Draft.group, Draft.group, same]
  refine ⟨Nat.le_of_eq ?_, fun g => ?_, fun g _ => ?_⟩
  · rw [depth, depth, same]
  · exact (group g).symm ▸ List.prefix_refl _
  · rw [group]

theorem grows_addGroup (d : Draft) (kind : GroupKind) : d.Grows (d.addGroup kind) where
  depth := by
    rw [depth, depth, size_groups_addGroup]
    exact Nat.le_succ _
  elements := fun g => (elements_addGroup d kind g).symm ▸ List.prefix_refl _
  kind := fun g there => by rw [kind_addGroup_of_hasGroup d kind there]

theorem grows_append {g : GroupId} (there : d.HasGroup g) (e : Element) :
    d.Grows (d.append g e) where
  depth := Nat.le_of_eq (size_groups_append d g e).symm
  elements := by
    intro other
    rw [group_append d g e there]
    split
    · rename_i same
      rw [same]
      exact List.prefix_append _ _
    · exact List.prefix_refl _
  kind := by
    intro other _
    rw [group_append d g e there]
    split
    · rename_i same
      rw [same]
    · rfl

end Draft

namespace Composition

variable {c c' : Composition}

theorem Change.grows (h : Change c c') : c.draft.Grows c'.draft := by
  cases h with
  | record | advance | makePattern | revise => exact Draft.grows_of_groups_eq rfl
  | addGroup named => exact Draft.grows_addGroup _ _
  | addQuery strict fresh =>
    exact (Draft.grows_addGroup _ .plain).trans (Draft.grows_of_groups_eq rfl)
  | append there admissible => exact Draft.grows_append there _

theorem Changes.grows (h : Changes c c') : c.draft.Grows c'.draft := by
  induction h with
  | refl => exact .refl _
  | tail _ change ih => exact ih.trans change.grows

variable {q : QueryId}

theorem Change.hasQuery {c c' : Composition} (h : Change c c') {q : QueryId}
    (there : c.draft.HasQuery q) : c'.draft.HasQuery q := by
  cases h with
  | record | advance | addGroup | makePattern => exact there
  | append => exact there
  | addQuery => exact (Draft.hasQuery_addQuery _ _ _ _ q).mpr (.inl there)
  | revise => exact (Draft.hasQuery_revise _ _ _ q).mpr there

theorem Revision.body {f : Query → Query} (h : c.Revision q f) (query : Query) :
    (f query).body = query.body := by
  cases h <;> rfl

theorem Change.body (h : Change c c') (there : c.draft.HasQuery q) :
    (c'.draft.query q).body = (c.draft.query q).body := by
  cases h with
  | record | advance | addGroup | makePattern | append => rfl
  | addQuery strict fresh =>
    exact congrArg Query.body
      (Draft.query_addQuery_of_hasQuery (c.draft.addGroup .plain) strict _ _ there)
  | @revise revised f here revision =>
    dsimp only
    by_cases same : q = revised
    · subst same
      rw [Draft.query_revise _ _ _ here, revision.body]
    · rw [Draft.query_revise_ne _ _ _ same]

theorem Changes.body (h : Changes c c') (there : c.draft.HasQuery q) :
    c'.draft.HasQuery q ∧ (c'.draft.query q).body = (c.draft.query q).body := by
  induction h with
  | refl => exact ⟨there, rfl⟩
  | tail _ change ih => exact ⟨change.hasQuery ih.1, (change.body ih.1).trans ih.2⟩

end Composition

end SparqlCompose
