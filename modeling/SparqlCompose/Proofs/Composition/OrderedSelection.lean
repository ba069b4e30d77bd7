import SparqlCompose.Proofs.Draft.FirstUse
import SparqlCompose.Proofs.Draft.Growth
import SparqlCompose.Proofs.Variables.Nodes

namespace SparqlCompose

open Relation (ReflTransGen)

namespace Form

variable {form : Form}

theorem grouping_withProjection (form : Form) (vs : List Variable) :
    (form.withProjection vs).grouping = form.grouping := by
  cases form <;> rfl

theorem grouping_withDistinct (form : Form) (flag : Bool) :
    (form.withDistinct flag).grouping = form.grouping := by
  cases form <;> rfl

theorem isSelect_withDistinct (form : Form) (flag : Bool) :
    (form.withDistinct flag).IsSelect ↔ form.IsSelect := by
  cases form <;> rfl

theorem isSelect_groupedBy (form : Form) (e : Entity) :
    (form.groupedBy e).IsSelect ↔ form.IsSelect := by
  cases form <;> rfl

theorem grouping_groupedBy (select : form.IsSelect) (e : Entity) :
    (form.groupedBy e).grouping = grouped form.grouping e := by
  obtain ⟨distinct, projection, grouping, rfl⟩ := select.eq
  rfl

theorem withProjection_projection (form : Form) : form.withProjection form.projection = form := by
  cases form <;> rfl

end Form

namespace Draft

variable {d d' : Draft} {q : QueryId}

/-- The second draft has the query a SELECT query or not, and groups it, as the first one does. -/
structure GroupsAs (q : QueryId) (d d' : Draft) : Prop where
  select : (d'.query q).form.IsSelect ↔ (d.query q).form.IsSelect
  grouping : (d'.query q).form.grouping = (d.query q).form.grouping

theorem groupsAs_of_query (same : d'.query q = d.query q) : d.GroupsAs q d' := by
  constructor <;> rw [same]

theorem groupsAs_of_queries (same : d'.queries = d.queries) : d.GroupsAs q d' := by
  apply groupsAs_of_query
  rw [query, query, same]

theorem Frame.groupsAs {r : QueryId} (h : d.Frame r d') (q : QueryId) : d.GroupsAs q d' := by
  by_cases own : q = r
  · subst own
    refine ⟨h.alike.isSelect, ?_⟩
    have alike := congrArg Form.grouping h.alike.form
    rwa [Form.grouping_withProjection, Form.grouping_withProjection] at alike
  · exact groupsAs_of_query (h.others q own)

theorem groupsAs_revise {r : QueryId} {f : Query → Query}
    (select : ∀ query : Query, (f query).form.IsSelect ↔ query.form.IsSelect)
    (grouping : ∀ query : Query, (f query).form.grouping = query.form.grouping) (d : Draft)
    (q : QueryId) : d.GroupsAs q (d.revise r f) := by
  by_cases own : q = r
  · subst own
    by_cases there : d.HasQuery q
    · constructor
      · rw [query_revise d q f there, select]
      · rw [query_revise d q f there, grouping]
    · rw [revise_of_not_hasQuery d q f there]
      exact groupsAs_of_queries rfl
  · exact groupsAs_of_query (query_revise_ne d r f own)

theorem groupsAs_newQuery (strict : Bool) (form : String) (there : d.HasQuery q) :
    d.GroupsAs q (Edit.left ((Edit.newQuery strict form).run d)) := by
  apply groupsAs_of_query
  rw [Edit.run_newQuery]
  split
  · exact query_addQuery_of_hasQuery (d.addGroup .plain) strict _ _ there
  · split
    · exact query_addQuery_of_hasQuery ((d.addGroup .plain).addGroup .plain) strict _ _ there
    · rfl

end Draft

namespace Composition

open Draft

variable {c : Composition} {q : QueryId} {e : Entity}

theorem Revision.unequal_grouping {f : Query → Query} (h : c.Revision q f) {query : Query}
    (unequal : Unequal query.form.grouping) : Unequal (f query).form.grouping := by
  cases h with
  | ask | meet | countBlank | bind | express => exact unequal
  | setDistinct flag => rwa [Query.form_reform, Form.grouping_withDistinct]
  | project => rwa [Query.form_reform, Form.grouping_withProjection]
  | addProjection =>
    simp only [Query.join, Query.form_reform, Form.grouping_withProjection]
    exact unequal
  | groupBy held =>
    rw [Query.form_reform]
    by_cases select : query.form.IsSelect
    · rw [Form.grouping_groupedBy select]
      exact unequal_grouped unequal _
    · cases form : query.form with
      | select => rw [form] at select; exact absurd trivial select
      | construct | formless => exact .nil

theorem Reachable.unequal_grouping (h : c.Reachable) (there : c.draft.HasQuery q) :
    Unequal (c.draft.query q).form.grouping := by
  refine h.query_invariant (P := fun query => Unequal query.form.grouping) ?_
    (fun revision => revision.unequal_grouping) q there
  intro c strict body form fresh
  cases form with
  | select distinct projection grouping => exact fresh.2.2 ▸ .nil
  | construct | formless => exact .nil

theorem groupsAs_after {o : Operation} (there : c.draft.HasQuery q)
    (other : ∀ e, o ≠ .groupBy q e) : c.draft.GroupsAs q (c.after o).draft := by
  -- the operations on another query, or on the groups, do not touch this one; those with a frame
  -- change its form in the projection only
  cases o with
  | newQuery strict form =>
    rw [after_eq_left rfl fun _ => rfl]
    exact groupsAs_newQuery strict form there
  | newFormless strict =>
    rw [after_eq_left rfl fun _ => rfl]
    exact groupsAs_of_query
      (query_addQuery_of_hasQuery (c.draft.addGroup .plain) strict _ _ there)
  | internVariable r text =>
    rw [after_eq_left rfl fun _ => rfl]
    exact Frame.groupsAs (Edit.framed_internVariable r text _) q
  | internResource r text =>
    rw [after_eq_left rfl fun _ => rfl]
    exact Frame.groupsAs (Edit.framed_internResource r text _) q
  | expression r text =>
    rw [after_eq_left rfl fun _ => rfl]
    exact Frame.groupsAs (Edit.framed_expression r text _) q
  | bindNamespace r label uri =>
    rw [after_eq_left rfl fun _ => rfl]
    exact Frame.groupsAs (Edit.framed_bindNamespace r label uri _) q
  | project r xs =>
    rw [after_eq_left rfl fun _ => rfl]
    exact Frame.groupsAs (Edit.framed_project r xs _) q
  | addProjection r x =>
    rw [after_eq_left rfl fun _ => rfl]
    exact Frame.groupsAs (Edit.framed_addProjection r x _) q
  | newBlank r =>
    rw [after_eq_left rfl fun _ => rfl]
    exact groupsAs_revise (f := Query.countBlank) (fun _ => Iff.rfl) (fun _ => rfl) _ q
  | setDistinct r flag =>
    rw [after_eq_left rfl fun _ => rfl, Edit.run_setDistinct]
    split
    · exact groupsAs_revise (fun query => Form.isSelect_withDistinct query.form flag)
        (fun query => Form.grouping_withDistinct query.form flag) _ q
    · exact groupsAs_of_queries rfl
  | groupBy r e =>
    have apart : q ≠ r := fun same => other e (by rw [same])
    rw [after_eq_left rfl fun _ => rfl, Edit.run_groupBy]
    split
    · exact groupsAs_of_query (query_revise_ne _ r _ apart)
    · exact groupsAs_of_queries rfl
  | internGraph r uri =>
    rw [after_eq_left rfl fun _ => rfl]
    exact groupsAs_of_queries (queries_internGraph _ r uri)
  | newGraph uri =>
    rw [after_eq_left rfl fun _ => rfl, Edit.run_newGraph]
    split <;> exact groupsAs_of_queries rfl
  | addElement group thing =>
    rw [after_eq_left rfl fun _ => rfl]
    exact groupsAs_of_queries (queries_addElement _ group _)
  | newPattern s v o g =>
    rw [after, Operation.run, EStateM.run_bind, Edit.run_newPattern]
    cases c.draft.patternFor c.draft.serial s v o g <;> exact groupsAs_of_queries rfl
  | addPattern group s v o g =>
    rw [after, Operation.run, EStateM.run_bind, Edit.run_addPattern]
    cases c.draft.patternFor c.draft.serial s v o g <;> exact groupsAs_of_queries rfl
  | sparql indent r =>
    rw [after_eq_left rfl fun _ => rfl, Edit.run_sparql]
    cases c.draft.sparql indent r <;> exact groupsAs_of_queries rfl
  | newOptional | newPlain | newBare | find | report => exact groupsAs_of_queries rfl

theorem grouping_after_groupBy (there : c.draft.HasQuery q)
    (select : (c.draft.query q).form.IsSelect) (e : Entity) :
    ((c.after (.groupBy q e)).draft.query q).form.IsSelect ∧
      ((c.after (.groupBy q e)).draft.query q).form.grouping =
        grouped (c.draft.query q).form.grouping e := by
  rw [after_eq_left rfl fun _ => rfl, Edit.run_groupBy, if_pos select]
  dsimp only [Edit.left]
  rw [query_revise _ _ _ there, Query.form_reform]
  exact ⟨(Form.isSelect_groupedBy _ e).mpr select, Form.grouping_groupedBy select e⟩

def grouping? (q : QueryId) : Step → Option Entity
  | .operation (.groupBy r e) => if r = q then some e else none
  | _ => none

section Runs

variable {p : Pipeline} {ps : List Provider}

theorem grouping_step (made : p.OfProviders ps) (there : c.draft.HasQuery q)
    (select : (c.draft.query q).form.IsSelect) (s : Step) :
    ((c.step p s).draft.query q).form.IsSelect ∧
      ((c.step p s).draft.query q).form.grouping =
        (grouping? q s).toList.foldl grouped (c.draft.query q).form.grouping := by
  cases s with
  | visit r q' =>
    have kept := Frame.groupsAs (made.framed_visitQuery r q' c.draft) q
    exact ⟨kept.select.mpr select, kept.grouping⟩
  | operation o =>
    by_cases groups : ∃ e, o = .groupBy q e
    · obtain ⟨e, rfl⟩ := groups
      have now := grouping_after_groupBy there select e
      rw [grouping?, if_pos rfl]
      exact now
    · have other : ∀ e, o ≠ .groupBy q e := fun e same => groups ⟨e, same⟩
      have kept := groupsAs_after there other
      have none : grouping? q (.operation o) = none := by
        cases o with
        | groupBy r e =>
          rw [grouping?, if_neg]
          rintro rfl
          exact other e rfl
        | _ => rfl
      rw [none]
      exact ⟨kept.select.mpr select, kept.grouping⟩

/-- A run leaves a query grouped by what it was grouped by, and by the things of the run in the
order of their first use. -/
theorem grouping_proceed (made : p.OfProviders ps) (h : c.Reachable) (there : c.draft.HasQuery q)
    (select : (c.draft.query q).form.IsSelect) {ss : List Step} (fits : c.Allows p ss) :
    ((c.proceed p ss).draft.query q).form.IsSelect ∧
      ((c.proceed p ss).draft.query q).form.grouping =
        (ss.filterMap (grouping? q)).foldl grouped (c.draft.query q).form.grouping := by
  induction ss generalizing c with
  | nil => exact ⟨select, rfl⟩
  | cons s rest ih =>
    obtain ⟨select', now⟩ := grouping_step made there select s
    have later := step_later made fits.1
    have there' := ((h.changes later).body there).1
    have reached : (c.step p s).Reachable := ReflTransGen.trans h later
    obtain ⟨still, rest⟩ := ih reached there' select' fits.2
    refine ⟨still, rest.trans ?_⟩
    rw [now, List.filterMap_cons]
    cases grouping? q s <;> rfl

end Runs

def withProjection (c : Composition) (q : QueryId) (vs : List Variable) : Composition :=
  ⟨c.draft.revise q (·.reform (·.withProjection vs)), c.patterns⟩

theorem withProjection_self (c : Composition) (q : QueryId) :
    c.withProjection q (c.draft.query q).form.projection = c := by
  have kept : (c.draft.query q).reform (·.withProjection (c.draft.query q).form.projection) =
      c.draft.query q := by
    rw [Query.reform, Form.withProjection_projection]
  rw [withProjection, revise_eq_self _ _ _ kept]

section Select

variable (select : (c.draft.query q).form.IsSelect)
include select

theorem project_variables (vs : List Variable) :
    c.outcome (.project q (vs.map Operand.ofVariable)) = .ok .done ∧
      c.after (.project q (vs.map Operand.ofVariable)) = c.withProjection q (keepFirst vs) := by
  have run := Edit.run_project c.draft q (vs.map Operand.ofVariable)
  rw [if_pos select, Edit.variablesFor_eq_ok_iff.mpr rfl] at run
  have answered : (Operation.project q (vs.map Operand.ofVariable)).run.run c.draft =
      .ok .done (c.withProjection q (keepFirst vs)).draft := by
    rw [Operation.run, EStateM.run_bind, run]
    rfl
  exact ⟨outcome_of_ok answered, after_of_ok answered rfl⟩

theorem project_ok_iff (xs : List Operand) :
    c.outcome (.project q xs) = .ok .done ↔
      ∃ vs : List Variable, xs = vs.map Operand.ofVariable := by
  constructor
  · intro replaced
    have run := Edit.run_project c.draft q xs
    rw [if_pos select] at run
    cases taken : c.draft.variablesFor xs with
    | ok vs => exact ⟨vs, Edit.variablesFor_eq_ok_iff.mp taken⟩
    | error e =>
      rw [taken] at run
      rw [outcome, Operation.run, EStateM.run_bind, run] at replaced
      cases replaced
  · rintro ⟨vs, rfl⟩
    exact (project_variables select vs).1

theorem addProjection_variable (v : Variable) :
    c.outcome (.addProjection q (.ofVariable v)) = .ok .done ∧
      c.after (.addProjection q (.ofVariable v)) =
        c.withProjection q (keepFirst ((c.draft.query q).form.projection ++ [v])) := by
  have run := Edit.run_addProjection c.draft q (.ofVariable v)
  have one : c.draft.variablesFor [.ofVariable v] = .ok [v] := Edit.variablesFor_eq_ok_iff.mpr rfl
  rw [if_pos select, one] at run
  have answered : (Operation.addProjection q (.ofVariable v)).run.run c.draft =
      .ok .done (c.draft.revise q (·.join [v])) := by
    rw [Operation.run, EStateM.run_bind, run]
    rfl
  exact ⟨outcome_of_ok answered, after_of_ok answered rfl⟩

end Select

/-- After any operations and visits, failed ones too, a SELECT query projects no two variables with
one identifier, and files each under its own. What is set as a projection is taken just when it is
all variables; of those with one identifier the first is kept, where the identifier first stands,
and nothing else changes. One more variable comes last, and changes nothing if one with its
identifier is projected. Neither does a projection that is set anew as it is. No two of the things
that the query is grouped by are equal, and those of a later run come in the order of their first
use, behind what was there. -/
theorem selection_is_ordered {c : Composition} (h : ReflTransGen StepsTo start c) {q : QueryId}
    (there : c.draft.HasQuery q) (select : (c.draft.query q).form.IsSelect) :
    (identifiers (c.draft.query q).form.projection).Nodup ∧
    filed (c.draft.query q).form.projection =
      (c.draft.query q).form.projection.map (fun v => (v.identifier, v)) ∧
    (∀ xs, c.outcome (.project q xs) = .ok .done ↔
      ∃ vs : List Variable, xs = vs.map Operand.ofVariable) ∧
    (∀ vs : List Variable, ∃ kept,
      c.after (.project q (vs.map Operand.ofVariable)) = c.withProjection q kept ∧
      identifiers kept = (identifiers vs).eraseDups ∧
      (∀ i, kept.find? (·.identifier = i) = vs.find? (·.identifier = i)) ∧
      filed vs = kept.map fun v => (v.identifier, v)) ∧
    (∀ v : Variable, c.outcome (.addProjection q (.ofVariable v)) = .ok .done ∧
      (v.identifier ∉ identifiers (c.draft.query q).form.projection →
        c.after (.addProjection q (.ofVariable v)) =
          c.withProjection q ((c.draft.query q).form.projection ++ [v])) ∧
      (v.identifier ∈ identifiers (c.draft.query q).form.projection →
        c.after (.addProjection q (.ofVariable v)) = c)) ∧
    c.after (.project q ((c.draft.query q).form.projection.map Operand.ofVariable)) = c ∧
    (c.draft.query q).form.grouping.Pairwise (fun e other => e.equal other = false) ∧
    ∀ p ps ss, Pipeline.OfProviders p ps → c.Allows p ss →
      ((c.proceed p ss).draft.query q).form.grouping =
        ((c.draft.query q).form.grouping ++ ss.filterMap (grouping? q)).eraseDupsBy
          fun e kept => kept.equal e := by
  have reachable : c.Reachable := stepsTo_later h
  have distinct := reachable.nodup_projection there
  have whole := keepFirst_of_nodup distinct
  have unequal := reachable.unequal_grouping there
  refine ⟨distinct, ?_, project_ok_iff select, fun vs => ?_, fun v => ?_, ?_, unequal, ?_⟩
  · rw [filed_eq, whole]
  · exact ⟨keepFirst vs, (project_variables select vs).2, identifiers_keepFirst vs,
      find?_keepFirst vs, filed_eq vs⟩
  · obtain ⟨answered, left⟩ := addProjection_variable select v
    rw [keepFirst_append distinct] at left
    refine ⟨answered, fun fresh => ?_, fun known => ?_⟩
    · rw [left, joined, if_neg fresh]
    · rw [left, joined, if_pos known, withProjection_self]
  · rw [(project_variables select _).2, whole, withProjection_self]
  · intro p ps ss made fits
    rw [(grouping_proceed made reachable there select fits).2]
    exact foldl_grouped_eq_eraseDupsBy unequal _

def column (q : Nat) (name : String) : Variable := ⟨⟨q⟩, ⟨"urn:#", name⟩⟩

def namesakeSteps : List Step :=
  [.operation (.newQuery false "SELECT"), .operation (.newQuery false "SELECT"),
   .operation (.internVariable ⟨0⟩ "urn:#x"), .operation (.internVariable ⟨1⟩ "urn:#x"),
   .operation (.internVariable ⟨0⟩ "urn:#y"),
   .operation (.project ⟨0⟩ ([column 0 "x", column 0 "y"].map Operand.ofVariable))]

def groupingSteps : List Step :=
  [.operation (.groupBy ⟨0⟩ (.variable (column 1 "x"))), .visit ⟨"visit", []⟩ ⟨0⟩,
   .operation (.groupBy ⟨0⟩ (.variable (column 0 "x"))),
   .operation (.groupBy ⟨0⟩ (.variable (column 0 "y")))]

@[irreducible] def namesakes : Composition := start.proceed Pipeline.bothDomains namesakeSteps

theorem selection_is_ordered_namesakes :
    start.Allows Pipeline.bothDomains namesakeSteps ∧ namesakes.draft.HasQuery ⟨0⟩ ∧
      (namesakes.draft.query ⟨0⟩).form.IsSelect ∧
      namesakes.Allows Pipeline.bothDomains groupingSteps ∧
      namesakes.after (.addProjection ⟨0⟩ (.ofVariable (column 1 "x"))) = namesakes ∧
      (∃ kept, namesakes.after (.project ⟨0⟩
            ([column 0 "y", column 1 "x", column 0 "y", column 0 "x"].map Operand.ofVariable)) =
          namesakes.withProjection ⟨0⟩ kept ∧
        identifiers kept = [⟨"urn:#", "y"⟩, ⟨"urn:#", "x"⟩] ∧
        kept.find? (·.identifier = ⟨"urn:#", "x"⟩) = some (column 1 "x")) ∧
      ((namesakes.proceed Pipeline.bothDomains groupingSteps).draft.query ⟨0⟩).form.grouping =
        [.variable (column 1 "x"), .variable (column 0 "y")] := by
  have facts : start.Allows Pipeline.bothDomains namesakeSteps ∧ namesakes.draft.HasQuery ⟨0⟩ ∧
      (namesakes.draft.query ⟨0⟩).form.IsSelect ∧
      namesakes.Allows Pipeline.bothDomains groupingSteps ∧
      (column 1 "x").identifier ∈ identifiers (namesakes.draft.query ⟨0⟩).form.projection ∧
      (namesakes.draft.query ⟨0⟩).form.grouping = [] := by
    decide +kernel
  obtain ⟨fits, there, select, allows, projected, ungrouped⟩ := facts
  have reached : ReflTransGen StepsTo start namesakes := by
    unfold namesakes
    exact proceed_stepsTo Pipeline.ofProviders_bothDomains fits
  obtain ⟨-, -, -, replaced, joined, -, -, grouping⟩ :=
    selection_is_ordered reached there select
  refine ⟨fits, there, select, allows, (joined (column 1 "x")).2.2 projected, ?_, ?_⟩
  · obtain ⟨kept, after, identifiers, first, -⟩ :=
      replaced [column 0 "y", column 1 "x", column 0 "y", column 0 "x"]
    exact ⟨kept, after, identifiers.trans (by decide), (first _).trans (by decide)⟩
  · rw [grouping _ _ _ Pipeline.ofProviders_bothDomains allows, ungrouped]
    decide +kernel

end Composition

end SparqlCompose
