import SparqlCompose.Proofs.Sharing.Mirror

namespace SparqlCompose

namespace Draft

theorem group_addGroup_of_ne (d : Draft) (kind : GroupKind) {g : GroupId} (h : g ≠ d.nextGroup) :
    (d.addGroup kind).group g = d.group g := by
  by_cases there : d.HasGroup g
  · exact d.kind_addGroup_of_hasGroup kind there
  · have there' : ¬ (d.addGroup kind).HasGroup g := by
      rw [hasGroup_addGroup]
      exact fun has => has.elim there h
    rw [group_of_not_hasGroup _ there, group_of_not_hasGroup _ there']

theorem query_addQuery_of_ne (d : Draft) (strict : Bool) (body : GroupId) (form : Form)
    {q : QueryId} (h : q ≠ d.nextQuery) : (d.addQuery strict body form).query q = d.query q := by
  by_cases there : d.HasQuery q
  · exact d.query_addQuery_of_hasQuery strict body form there
  · have there' : ¬ (d.addQuery strict body form).HasQuery q := by
      rw [hasQuery_addQuery]
      exact fun has => has.elim there h
    rw [query_of_not_hasQuery _ _ there, query_of_not_hasQuery _ _ there']

theorem count_revise (d : Draft) (q : QueryId) (f : Query → Query) (k : Counted) :
    (d.revise q f).count k = d.count k := by
  cases k with
  | queries => exact d.size_queries_revise q f
  | groups | serials => rfl

theorem count_append (d : Draft) (g : GroupId) (e : Element) (k : Counted) :
    (d.append g e).count k = d.count k := by
  cases k with
  | groups => exact d.size_groups_append g e
  | queries | serials => rfl

/-- What has no name under the naming stays as it was. -/
structure Keeps (ν : Naming) (D D' : Draft) : Prop where
  has : ∀ k n, (∀ m, ν.number k m ≠ n) → (n < D'.count k ↔ n < D.count k)
  group : ∀ g : GroupId, (∀ g₀ : GroupId, g₀.rename ν ≠ g) → D'.group g = D.group g
  query : ∀ q : QueryId, (∀ q₀ : QueryId, q₀.rename ν ≠ q) → D'.query q = D.query q

/-- The drafts that a step leads to, from one draft and from another that mirrors it. -/
structure Follows (ν : Naming) (d D d' D' : Draft) : Prop where
  mirrors : d'.Mirrors ν D'
  keeps : D.Keeps ν D'
  grows : ∀ k, ∃ n, d'.count k = d.count k + n ∧ D'.count k = D.count k + n

theorem Keeps.refl (ν : Naming) (D : Draft) : D.Keeps ν D :=
  ⟨fun _ _ _ => Iff.rfl, fun _ _ => rfl, fun _ _ => rfl⟩

theorem Keeps.trans {ν : Naming} {first second third : Draft} (earlier : first.Keeps ν second)
    (later : second.Keeps ν third) : first.Keeps ν third where
  has := fun k n other => (later.has k n other).trans (earlier.has k n other)
  group := fun g other => (later.group g other).trans (earlier.group g other)
  query := fun q other => (later.query q other).trans (earlier.query q other)

variable {ν : Naming} {d D d' D' d'' D'' : Draft}

theorem Follows.refl (h : d.Mirrors ν D) : d.Follows ν D d D :=
  ⟨h, .refl ν D, fun _ => ⟨0, rfl, rfl⟩⟩

theorem Follows.trans (earlier : d.Follows ν D d' D') (later : d'.Follows ν D' d'' D'') :
    d.Follows ν D d'' D'' where
  mirrors := later.mirrors
  keeps := earlier.keeps.trans later.keeps
  grows := by
    intro k
    obtain ⟨n, first, first'⟩ := earlier.grows k
    obtain ⟨m, second, second'⟩ := later.grows k
    exact ⟨n + m, by omega, by omega⟩

section Primitives

variable (h : d.Mirrors ν D)
include h

theorem Follows.record (e e' : Entry) : d.Follows ν D (d.record e) (D.record e') where
  mirrors := ⟨h.has, h.group, h.query, h.size⟩
  keeps := ⟨fun _ _ _ => Iff.rfl, fun _ _ => rfl, fun _ _ => rfl⟩
  grows := fun _ => ⟨0, rfl, rfl⟩

theorem Follows.revise {q : QueryId} {f f' : Query → Query} (there : d.HasQuery q)
    (same : f' ((d.query q).rename ν) = (f (d.query q)).rename ν) :
    d.Follows ν D (d.revise q f) (D.revise (q.rename ν) f') where
  mirrors.has := by
    intro k n
    rw [count_revise, count_revise]
    exact h.has k n
  mirrors.group := h.group
  mirrors.query := by
    intro r has
    rw [hasQuery_revise] at has
    by_cases is : r = q
    · subst is
      have there' := (h.hasQuery r).mpr there
      rw [query_revise _ _ _ there', query_revise _ _ _ there, h.query r there, same]
    · have apart : r.rename ν ≠ q.rename ν := (QueryId.rename_injective ν).ne is
      rw [query_revise_ne _ _ _ apart, query_revise_ne _ _ _ is, h.query r has]
  mirrors.size := h.size
  keeps.has := by
    intro k n _
    rw [count_revise]
  keeps.group := fun _ _ => rfl
  keeps.query := fun r other => query_revise_ne _ _ _ (other q).symm
  grows := fun k => ⟨0, count_revise d q f k, count_revise D (q.rename ν) f' k⟩

theorem Follows.append {g : GroupId} (there : d.HasGroup g) (e : Element) :
    d.Follows ν D (d.append g e) (D.append (g.rename ν) (e.rename ν)) where
  mirrors.has := by
    intro k n
    rw [count_append, count_append]
    exact h.has k n
  mirrors.group := by
    intro r has
    rw [hasGroup_append] at has
    rw [group_append _ _ _ ((h.hasGroup g).mpr there), group_append _ _ _ there]
    by_cases is : r = g
    · subst is
      rw [if_pos rfl, if_pos rfl, h.group r there, Group.rename, Group.rename, List.map_append]
      rfl
    · have apart : r.rename ν ≠ g.rename ν := (GroupId.rename_injective ν).ne is
      rw [if_neg apart, if_neg is, h.group r has]
  mirrors.query := h.query
  mirrors.size := by
    have sizes := h.size
    simp only [depth, size_groups_append] at sizes ⊢
    exact sizes
  keeps.has := by
    intro k n _
    rw [count_append]
  keeps.group := by
    intro r other
    rw [group_append _ _ _ ((h.hasGroup g).mpr there), if_neg (other g).symm]
  keeps.query := fun _ _ => rfl
  grows := fun k => ⟨0, count_append d g e k, count_append D (g.rename ν) (e.rename ν) k⟩

theorem Mirrors.has_succ (k : Counted) (next : ν.number k (d.count k) = D.count k) (n : Nat) :
    ν.number k n < D.count k + 1 ↔ n < d.count k + 1 := by
  have old := h.has k n
  have new : ν.number k n = D.count k ↔ n = d.count k := by
    rw [← next]
    exact (ν.injective k).eq_iff
  omega

theorem Follows.addGroup (kind : GroupKind) (next : d.nextGroup.rename ν = D.nextGroup) :
    d.Follows ν D (d.addGroup kind) (D.addGroup kind) where
  mirrors.has := by
    intro k n
    cases k with
    | groups =>
      simp only [count, size_groups_addGroup]
      exact h.has_succ .groups (congrArg GroupId.index next) n
    | queries => exact h.has .queries n
    | serials => exact h.has .serials n
  mirrors.group := by
    intro g has
    by_cases new : g = d.nextGroup
    · subst new
      rw [next, group_addGroup_next, group_addGroup_next]
      rfl
    · have new' : g.rename ν ≠ D.nextGroup := by
        rw [← next]
        exact (GroupId.rename_injective ν).ne new
      rw [group_addGroup_of_ne _ _ new, group_addGroup_of_ne _ _ new', h.group_eq]
  mirrors.query := h.query
  mirrors.size := by
    have sizes := h.size
    simp only [depth, size_groups_addGroup] at sizes ⊢
    omega
  keeps.has := by
    intro k n other
    cases k with
    | groups =>
      have apart : n ≠ D.groups.size :=
        fun same => other d.groups.size ((congrArg GroupId.index next).trans same.symm)
      simp only [count, size_groups_addGroup]
      omega
    | queries | serials => exact Iff.rfl
  keeps.group := by
    intro g other
    have apart : g ≠ D.nextGroup := fun same => other d.nextGroup (next.trans same.symm)
    exact group_addGroup_of_ne D kind apart
  keeps.query := fun _ _ => rfl
  grows := by
    intro k
    cases k with
    | groups => exact ⟨1, d.size_groups_addGroup kind, D.size_groups_addGroup kind⟩
    | queries | serials => exact ⟨0, rfl, rfl⟩

theorem Follows.addQuery (strict : Bool) (body : GroupId) (form : Form)
    (next : d.nextQuery.rename ν = D.nextQuery) :
    d.Follows ν D (d.addQuery strict body form)
      (D.addQuery strict (body.rename ν) (form.rename ν)) where
  mirrors.has := by
    intro k n
    cases k with
    | queries =>
      simp only [count, size_queries_addQuery]
      exact h.has_succ .queries (congrArg QueryId.index next) n
    | groups => exact h.has .groups n
    | serials => exact h.has .serials n
  mirrors.group := h.group
  mirrors.query := by
    intro q has
    by_cases new : q = d.nextQuery
    · subst new
      rw [next, query_addQuery_next, query_addQuery_next]
      rfl
    · have new' : q.rename ν ≠ D.nextQuery := by
        rw [← next]
        exact (QueryId.rename_injective ν).ne new
      have old : d.HasQuery q := ((hasQuery_addQuery _ _ _ _ q).mp has).resolve_right new
      rw [query_addQuery_of_ne _ _ _ _ new, query_addQuery_of_ne _ _ _ _ new', h.query q old]
  mirrors.size := h.size
  keeps.has := by
    intro k n other
    cases k with
    | queries =>
      have apart : n ≠ D.queries.size :=
        fun same => other d.queries.size ((congrArg QueryId.index next).trans same.symm)
      simp only [count, size_queries_addQuery]
      omega
    | groups | serials => exact Iff.rfl
  keeps.group := fun _ _ => rfl
  keeps.query := by
    intro q other
    have apart : q ≠ D.nextQuery := fun same => other d.nextQuery (next.trans same.symm)
    exact query_addQuery_of_ne D strict _ _ apart
  grows := by
    intro k
    cases k with
    | queries => exact ⟨1, d.size_queries_addQuery .., D.size_queries_addQuery ..⟩
    | groups | serials => exact ⟨0, rfl, rfl⟩

theorem Follows.advance (next : ν.number .serials d.serial = D.serial) :
    d.Follows ν D d.advance D.advance where
  mirrors.has := by
    intro k n
    cases k with
    | serials => exact h.has_succ .serials next n
    | groups => exact h.has .groups n
    | queries => exact h.has .queries n
  mirrors.group := h.group
  mirrors.query := h.query
  mirrors.size := h.size
  keeps.has := by
    intro k n other
    cases k with
    | serials =>
      have apart : n ≠ D.serial := fun same => other d.serial (next.trans same.symm)
      simp only [count, Draft.advance]
      omega
    | groups | queries => exact Iff.rfl
  keeps.group := fun _ _ => rfl
  keeps.query := fun _ _ => rfl
  grows := by
    intro k
    cases k with
    | serials => exact ⟨1, rfl, rfl⟩
    | groups | queries => exact ⟨0, rfl, rfl⟩

end Primitives

theorem Mirrors.of_keeps {μ : Naming} (h : d.Mirrors μ D) (kept : D.Keeps ν D')
    (size : D.depth ≤ D'.depth) (apart : ∀ k m n, ν.number k m ≠ μ.number k n) :
    d.Mirrors μ D' where
  has := by
    intro k n
    rw [kept.has k _ fun m => apart k m n]
    exact h.has k n
  group := by
    intro g there
    have other : ∀ g₀ : GroupId, g₀.rename ν ≠ g.rename μ :=
      fun g₀ same => apart .groups _ _ (congrArg GroupId.index same)
    rw [kept.group _ other]
    exact h.group g there
  query := by
    intro q there
    have other : ∀ q₀ : QueryId, q₀.rename ν ≠ q.rename μ :=
      fun q₀ same => apart .queries _ _ (congrArg QueryId.index same)
    rw [kept.query _ other]
    exact h.query q there
  size := Nat.le_trans h.size size

end Draft

end SparqlCompose
