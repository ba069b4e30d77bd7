import SparqlCompose.Proofs.Draft.Growth
import SparqlCompose.Proofs.Nesting.Acyclic
import SparqlCompose.Proofs.Pipeline.Steps

namespace SparqlCompose

open Relation (ReflTransGen)

namespace Draft

def graphs (d : Draft) (q : QueryId) (uri : String) : List GroupId :=
  (d.group (d.query q).body).groups.filter fun g => (d.group g).kind = .graph uri

theorem graph?_eq_head? (d : Draft) (q : QueryId) (uri : String) :
    d.graph? q uri = (d.graphs q uri).head? :=
  List.head?_filter.symm

variable {d d' : Draft} {q : QueryId} {uri : String}

/-- The second draft is the first with a new named graph, which is empty and the last thing in the
body of the query. -/
structure GainsGraph (q : QueryId) (uri : String) (g : GroupId) (d d' : Draft) : Prop where
  new : ¬ d.HasGroup g
  count : d'.groups.size = d.groups.size + 1
  empty : d'.group g = ⟨.graph uri, []⟩
  last : d'.group (d.query q).body =
    { d.group (d.query q).body with
      elements := (d.group (d.query q).body).elements ++ [.group g] }
  others : ∀ other, d.HasGroup other → other ≠ (d.query q).body → d'.group other = d.group other
  queries : d'.queries = d.queries
  serial : d'.serial = d.serial
  journal : d'.journal = d.journal

theorem gainsGraph_append (d : Draft) (q : QueryId) (uri : String)
    (body : d.HasGroup (d.query q).body) :
    d.GainsGraph q uri d.nextGroup
      ((d.addGroup (.graph uri)).append (d.query q).body (.group d.nextGroup)) := by
  have there : (d.addGroup (.graph uri)).HasGroup (d.query q).body :=
    (hasGroup_addGroup _ _ _).mpr (.inl body)
  have apart : d.nextGroup ≠ (d.query q).body := by
    intro same
    rw [← same] at body
    exact Nat.lt_irrefl _ body
  refine ⟨Nat.lt_irrefl _, ?_, ?_, ?_, ?_, rfl, rfl, rfl⟩
  · rw [size_groups_append, size_groups_addGroup]
  · rw [group_append _ _ _ there, if_neg apart, group_addGroup_next]
  · rw [group_append _ _ _ there, if_pos rfl, kind_addGroup_of_hasGroup d _ body]
  · intro other has ne
    rw [group_append _ _ _ there, if_neg ne, kind_addGroup_of_hasGroup d _ has]

theorem GainsGraph.kind {g : GroupId} (h : d.GainsGraph q uri g d') {other : GroupId}
    (has : d.HasGroup other) : (d'.group other).kind = (d.group other).kind := by
  by_cases body : other = (d.query q).body
  · rw [body, h.last]
  · rw [h.others other has body]

theorem GainsGraph.graphs_eq {g : GroupId} (h : d.GainsGraph q uri g d') (closed : d.Closed)
    (none : d.graphs q uri = []) : d'.graphs q uri = [g] := by
  have query : d'.query q = d.query q := by rw [Draft.query, Draft.query, h.queries]
  have old : (d.group (d.query q).body).groups.filter (fun g => (d'.group g).kind = .graph uri) =
      [] := by
    rw [← none]
    apply List.filter_congr
    intro inner member
    rw [h.kind (closed _ inner member)]
  have groups : (d'.group (d.query q).body).groups = (d.group (d.query q).body).groups ++ [g] := by
    rw [h.last, Group.groups, List.filterMap_append]
    rfl
  rw [graphs, query, groups, List.filter_append, old]
  simp [h.empty]

theorem Grows.isPrefix_graphs (h : d.Grows d') (closed : d.Closed)
    (body : (d'.query q).body = (d.query q).body) : d.graphs q uri <+: d'.graphs q uri := by
  obtain ⟨more, whole⟩ := h.groups (d.query q).body
  have kept : (d.group (d.query q).body).groups.filter (fun g => (d'.group g).kind = .graph uri) =
      d.graphs q uri := by
    apply List.filter_congr
    intro g member
    rw [h.kind g (closed _ g member)]
  rw [← kept, graphs, body, ← whole, List.filter_append]
  exact List.prefix_append _ _

end Draft

namespace Composition

variable {c c' : Composition} {q : QueryId} {uri : String}

theorem Changes.isPrefix_graphs (h : Changes c c') (closed : c.draft.Closed)
    (there : c.draft.HasQuery q) : c.draft.graphs q uri <+: c'.draft.graphs q uri :=
  h.grows.isPrefix_graphs closed (h.body there).2

section Request

variable [IriCheck] (h : c.Reachable) (there : c.draft.HasQuery q)
include h there

theorem Reachable.hasGroup_body : c.draft.HasGroup (c.draft.query q).body :=
  h.rooted_changes.1 q there _ (Query.body_mem_roots _)

theorem internGraph_of_graphs {g : GroupId} {rest : List GroupId}
    (known : c.draft.graphs q uri = g :: rest) :
    c.outcome (.internGraph q uri) = .ok (.entity (.group g)) ∧
      c.after (.internGraph q uri) = c := by
  have run : (Operation.internGraph q uri).run.run c.draft =
      .ok (.entity (.group g)) c.draft := by
    rw [Operation.run, EStateM.run_bind, Edit.run_internGraph _ _ _ (h.hasGroup_body there),
      Draft.graph?_eq_head?, known]
    rfl
  exact ⟨outcome_of_ok run, after_of_ok run rfl⟩

theorem internGraph_of_graphs_eq_nil (named : uri ≠ "") (none : c.draft.graphs q uri = []) :
    c.outcome (.internGraph q uri) = .ok (.entity (.group c.draft.nextGroup)) ∧
      c.draft.GainsGraph q uri c.draft.nextGroup (c.after (.internGraph q uri)).draft ∧
      (c.after (.internGraph q uri)).patterns = c.patterns := by
  have body := h.hasGroup_body there
  have some : uri.isEmpty = false := by simpa using named
  have run : (Operation.internGraph q uri).run.run c.draft =
      .ok (.entity (.group c.draft.nextGroup))
        ((c.draft.addGroup (.graph uri)).append (c.draft.query q).body
          (.group c.draft.nextGroup)) := by
    rw [Operation.run, EStateM.run_bind, Edit.run_internGraph _ _ _ body,
      Draft.graph?_eq_head?, none]
    simp only [List.head?_nil, some, Bool.false_eq_true, if_false]
    rfl
  have made := after_of_ok run rfl
  refine ⟨outcome_of_ok run, ?_, ?_⟩
  · rw [made]
    exact c.draft.gainsGraph_append q uri body
  · rw [made]

end Request

/-- A query is asked for a named graph, in any composition, with any non-empty name. It answers with
the first graph of the name that stands directly in its body, and changes nothing, if there is one.
If there is none, it answers with a new graph, which is all that is added: empty, and last in the
body. So no request makes a second graph of the name there. Whatever operations and visits come
later, the answer stays the same, and nothing more is added for it. -/
theorem named_graph_stays {c : Composition} (h : c.Reachable) {q : QueryId}
    (there : c.draft.HasQuery q) {uri : String} (named : uri ≠ "") :
    ∃ g, c.outcome (.internGraph q uri) = .ok (.entity (.group g)) ∧
      (∀ first rest, c.draft.graphs q uri = first :: rest →
        g = first ∧ c.after (.internGraph q uri) = c) ∧
      (c.draft.graphs q uri = [] →
        c.draft.GainsGraph q uri g (c.after (.internGraph q uri)).draft ∧
          (c.after (.internGraph q uri)).patterns = c.patterns ∧
          (c.after (.internGraph q uri)).draft.graphs q uri = [g]) ∧
      ∀ c', ReflTransGen StepsTo (c.after (.internGraph q uri)) c' →
        c'.outcome (.internGraph q uri) = .ok (.entity (.group g)) ∧
          c'.after (.internGraph q uri) = c' := by
  have asked : (c.after (.internGraph q uri)).Reachable :=
    h.tail ⟨.internGraph q uri, there, rfl⟩
  have there' := ((after_changes h.rooted_changes.1 (o := .internGraph q uri) there).body there).1
  -- it is enough that the graph stands first in the body once it was asked for
  have stays : ∀ {g rest}, (c.after (.internGraph q uri)).draft.graphs q uri = g :: rest →
      ∀ c', ReflTransGen StepsTo (c.after (.internGraph q uri)) c' →
        c'.outcome (.internGraph q uri) = .ok (.entity (.group g)) ∧
          c'.after (.internGraph q uri) = c' := by
    intro g rest front c' later
    have chain := asked.changes (stepsTo_later later)
    obtain ⟨more, whole⟩ := chain.isPrefix_graphs asked.wellNested.closed there'
    rw [front] at whole
    have reached : c'.Reachable := Relation.ReflTransGen.trans asked (stepsTo_later later)
    exact internGraph_of_graphs reached (chain.body there').1 whole.symm
  cases known : c.draft.graphs q uri with
  | cons g rest =>
    obtain ⟨answered, same⟩ := internGraph_of_graphs h there known
    refine ⟨g, answered, ?_, nofun, ?_⟩
    · rintro first others ⟨⟩
      exact ⟨rfl, same⟩
    · rw [← same] at known
      exact stays known
  | nil =>
    obtain ⟨answered, gains, kept⟩ := internGraph_of_graphs_eq_nil h there named known
    have only := gains.graphs_eq h.wellNested.closed known
    exact ⟨_, answered, nofun, fun _ => ⟨gains, kept, only⟩, stays only⟩

def deepGraph : List Operation :=
  [.newQuery false "SELECT", .newGraph "urn:graph", .newOptional,
   .addElement ⟨2⟩ (some (.group ⟨1⟩)), .addElement ⟨0⟩ (some (.group ⟨2⟩))]

def attaching : List Step :=
  [.operation (.addElement ⟨0⟩ (some (.group ⟨1⟩))), .operation .newPlain,
   .operation (.addElement ⟨4⟩ (some (.group ⟨0⟩))), .visit ⟨"visit", []⟩ ⟨0⟩]

theorem named_graph_stays_deepGraph :
    start.Admits deepGraph ∧ (start.replay deepGraph).draft.graphs ⟨0⟩ "urn:graph" = [] ∧
      ((start.replay deepGraph).after (.internGraph ⟨0⟩ "urn:graph")).Allows Pipeline.bothDomains
        attaching ∧
      ∃ g, (start.replay deepGraph).outcome (.internGraph ⟨0⟩ "urn:graph") =
          .ok (.entity (.group g)) ∧
        ((start.replay deepGraph).after (.internGraph ⟨0⟩ "urn:graph")).draft.graphs ⟨0⟩
          "urn:graph" = [g] ∧
        (((start.replay deepGraph).after (.internGraph ⟨0⟩ "urn:graph")).proceed
          Pipeline.bothDomains attaching).outcome (.internGraph ⟨0⟩ "urn:graph") =
            .ok (.entity (.group g)) := by
  have facts : start.Admits deepGraph ∧ (start.replay deepGraph).draft.HasQuery ⟨0⟩ ∧
      (start.replay deepGraph).draft.graphs ⟨0⟩ "urn:graph" = [] ∧
      ((start.replay deepGraph).after (.internGraph ⟨0⟩ "urn:graph")).Allows Pipeline.bothDomains
        attaching := by
    decide +kernel
  obtain ⟨admits, there, none, allows⟩ := facts
  obtain ⟨g, answered, -, gained, later⟩ :=
    named_graph_stays (reachable_replay admits) there (show "urn:graph" ≠ "" by decide)
  have again := (later _ (proceed_stepsTo Pipeline.ofProviders_bothDomains allows)).1
  exact ⟨admits, none, allows, g, answered, (gained none).2.2, again⟩

end Composition

end SparqlCompose
