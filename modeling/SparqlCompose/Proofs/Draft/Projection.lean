import Mathlib.Data.List.Nodup
import SparqlCompose.Proofs.Composition.Change

namespace SparqlCompose

def identifiers (vs : List Variable) : List Identifier := vs.map (·.identifier)

def joined (vs : List Variable) (v : Variable) : List Variable :=
  if v.identifier ∈ identifiers vs then vs else vs ++ [v]

theorem identifiers_append (vs ws : List Variable) :
    identifiers (vs ++ ws) = identifiers vs ++ identifiers ws := List.map_append

theorem keepFirst_eq_foldl (vs : List Variable) : Draft.keepFirst vs = vs.foldl joined [] := by
  have step : (fun (kept : List Variable) (v : Variable) =>
      if kept.any (·.identifier == v.identifier) then kept else kept ++ [v]) = joined := by
    funext kept v
    have there : kept.any (·.identifier == v.identifier) = true ↔
        v.identifier ∈ identifiers kept := by
      simp [identifiers]
    simp only [joined, there]
  rw [Draft.keepFirst, step]

theorem nodup_joined {vs : List Variable} (distinct : (identifiers vs).Nodup) (v : Variable) :
    (identifiers (joined vs v)).Nodup := by
  by_cases there : v.identifier ∈ identifiers vs
  · simpa only [joined, there, if_true] using distinct
  · rw [joined, if_neg there, identifiers_append]
    apply List.Nodup.append distinct (List.nodup_singleton _)
    intro i member last
    rw [List.mem_singleton.mp last] at member
    exact there member

theorem foldl_joined {vs ws : List Variable} (distinct : (identifiers ws).Nodup) :
    ws.foldl joined vs = vs ++ ws.filter (·.identifier ∉ identifiers vs) := by
  induction ws generalizing vs with
  | nil => simp
  | cons w ws ih =>
    have parts : w.identifier ∉ identifiers ws ∧ (identifiers ws).Nodup :=
      List.nodup_cons.mp distinct
    rw [List.foldl_cons, ih parts.2]
    by_cases there : w.identifier ∈ identifiers vs
    · simp only [joined, there, if_true, List.filter_cons, not_true, decide_false,
        Bool.false_eq_true, if_false]
    · -- no later variable has the identifier that joins here, so the same ones are left out
      have rest : ∀ x ∈ ws, decide (x.identifier ∉ identifiers (vs ++ [w])) =
          decide (x.identifier ∉ identifiers vs) := by
        intro x member
        have other : x.identifier ≠ w.identifier := by
          intro same
          apply parts.1
          rw [← same]
          exact List.mem_map.mpr ⟨x, member, rfl⟩
        simp [identifiers, other]
      simp only [joined, there, if_false, List.filter_cons, not_false_iff, decide_true, if_true,
        List.append_assoc, List.singleton_append, List.filter_congr rest]

theorem keepFirst_of_nodup {vs : List Variable} (distinct : (identifiers vs).Nodup) :
    Draft.keepFirst vs = vs := by
  rw [keepFirst_eq_foldl, foldl_joined distinct]
  simp [identifiers]

theorem keepFirst_append {vs : List Variable} (distinct : (identifiers vs).Nodup) (v : Variable) :
    Draft.keepFirst (vs ++ [v]) = joined vs v := by
  have start : vs.foldl joined [] = vs := by
    rw [← keepFirst_eq_foldl, keepFirst_of_nodup distinct]
  rw [keepFirst_eq_foldl, List.foldl_append, start]
  rfl

theorem mem_identifiers_joined {vs : List Variable} {v : Variable} {i : Identifier} :
    i ∈ identifiers (joined vs v) ↔ i ∈ identifiers vs ∨ i = v.identifier := by
  by_cases there : v.identifier ∈ identifiers vs
  · rw [joined, if_pos there]
    constructor
    · exact .inl
    · rintro (member | rfl)
      · exact member
      · exact there
  · rw [joined, if_neg there, identifiers_append, List.mem_append]
    simp [identifiers]

theorem mem_identifiers_keepFirst {vs : List Variable} {i : Identifier} :
    i ∈ identifiers (Draft.keepFirst vs) ↔ i ∈ identifiers vs := by
  have kept : ∀ ws us : List Variable, i ∈ identifiers (ws.foldl joined us) ↔
      i ∈ identifiers us ∨ i ∈ identifiers ws := by
    intro ws
    induction ws with
    | nil => simp [identifiers]
    | cons w ws ih =>
      intro us
      rw [List.foldl_cons, ih, mem_identifiers_joined]
      simp [identifiers, or_assoc]
  rw [keepFirst_eq_foldl, kept]
  simp [identifiers]

theorem mem_of_mem_joined {vs : List Variable} {v w : Variable} (h : w ∈ joined vs v) :
    w ∈ vs ∨ w = v := by
  unfold joined at h
  split at h
  · exact .inl h
  · exact (List.mem_append.mp h).imp_right List.mem_singleton.mp

theorem mem_of_mem_keepFirst {vs : List Variable} {v : Variable} (h : v ∈ Draft.keepFirst vs) :
    v ∈ vs := by
  have kept : ∀ ws us : List Variable, v ∈ ws.foldl joined us → v ∈ us ∨ v ∈ ws := by
    intro ws
    induction ws with
    | nil => exact fun us member => .inl member
    | cons w ws ih =>
      intro us member
      rcases ih _ member with before | later
      · rcases mem_of_mem_joined before with old | rfl
        · exact .inl old
        · exact .inr (by simp)
      · exact .inr (List.mem_cons_of_mem _ later)
  rw [keepFirst_eq_foldl] at h
  simpa using kept vs [] h

theorem nodup_keepFirst (vs : List Variable) : (identifiers (Draft.keepFirst vs)).Nodup := by
  have kept : ∀ (ws us : List Variable), (identifiers us).Nodup →
      (identifiers (ws.foldl joined us)).Nodup := by
    intro ws
    induction ws with
    | nil => exact fun us distinct => distinct
    | cons w ws ih => exact fun us distinct => ih _ (nodup_joined distinct w)
  rw [keepFirst_eq_foldl]
  exact kept vs [] .nil

theorem Draft.FreshForm.projection_eq {d : Draft} {form : Form} (fresh : d.FreshForm form) :
    form.projection = [] := by
  cases form with
  | select distinct projection grouping => exact fresh.2.1
  | construct | formless => rfl

namespace Composition

theorem Revision.nodup_projection {c : Composition} {q : QueryId} {f : Query → Query}
    (h : c.Revision q f) {query : Query} (distinct : (identifiers query.form.projection).Nodup) :
    (identifiers (f query).form.projection).Nodup := by
  cases h with
  | ask | meet | countBlank | bind | express => exact distinct
  | setDistinct flag =>
    simp only [Query.form_reform, Form.projection_withDistinct]
    exact distinct
  | groupBy held =>
    simp only [Query.form_reform, Form.projection_groupedBy]
    exact distinct
  | project | addProjection =>
    simp only [Query.join, Query.form_reform]
    by_cases select : query.form.IsSelect
    · rw [select.projection_withProjection]
      exact nodup_keepFirst _
    · rw [Form.withProjection_of_not_isSelect select]
      exact distinct

theorem Reachable.invariant_query {P : Composition → Query → Prop} {c : Composition}
    (h : c.Reachable)
    (new : ∀ {c : Composition} (strict : Bool) (body : GroupId) {form : Form},
      c.draft.FreshForm form → P c ⟨strict, [], body, [], [], 0, form⟩)
    (keep : ∀ {c : Composition} {q f}, c.Revision q f → P c (c.draft.query q) →
      P c (f (c.draft.query q)))
    (stays : ∀ {c c'}, Change c c' → ∀ query, P c query → P c' query) :
    ∀ q, c.draft.HasQuery q → P c (c.draft.query q) := by
  refine h.invariant (P := fun c => ∀ q, c.draft.HasQuery q → P c (c.draft.query q)) ?_ ?_
  · intro q there
    exact absurd there (Nat.not_lt_zero _)
  intro c c' change all q there
  apply stays change
  cases change with
  | record | advance | makePattern | addGroup => exact all q there
  | append group admissible => exact all q there
  | addQuery strict fresh =>
    rcases (Draft.hasQuery_addQuery _ _ _ _ q).mp there with old | next
    · rw [Draft.query_addQuery_of_hasQuery _ _ _ _ old]
      exact all q old
    · subst next
      rw [Draft.query_addQuery_next]
      exact new strict _ fresh
  | @revise revised f here revision =>
    have old : c.draft.HasQuery q := (Draft.hasQuery_revise _ _ _ q).mp there
    by_cases same : q = revised
    · subst same
      rw [Draft.query_revise _ _ _ here]
      exact keep revision (all q old)
    · rw [Draft.query_revise_ne _ _ _ same]
      exact all q old

/-- What holds of new queries and is kept by every revision holds of every query. -/
theorem Reachable.query_invariant {P : Query → Prop} {c : Composition} (h : c.Reachable)
    (new : ∀ {c : Composition} (strict : Bool) (body : GroupId) {form : Form},
      c.draft.FreshForm form → P ⟨strict, [], body, [], [], 0, form⟩)
    (keep : ∀ {c : Composition} {q f}, c.Revision q f → P (c.draft.query q) →
      P (f (c.draft.query q))) :
    ∀ q, c.draft.HasQuery q → P (c.draft.query q) :=
  h.invariant_query (P := fun _ => P) new keep fun _ _ holds => holds

theorem Reachable.nodup_projection {c : Composition} (h : c.Reachable) {q : QueryId}
    (there : c.draft.HasQuery q) : (identifiers (c.draft.query q).form.projection).Nodup := by
  refine h.query_invariant (P := fun query => (identifiers query.form.projection).Nodup) ?_ ?_ q
    there
  · intro c strict body form fresh
    rw [fresh.projection_eq]
    exact .nil
  · intro c q f revision distinct
    exact revision.nodup_projection distinct

end Composition

end SparqlCompose
