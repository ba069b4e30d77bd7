import SparqlCompose.Proofs.Composition.NamedGraphs
import SparqlCompose.Proofs.Variables.Interning
import SparqlCompose.Proofs.Writing.Offences

namespace SparqlCompose

namespace Pattern

variable [IriCheck] {p : Pattern} {scope : Option Term}

omit [IriCheck] in
theorem terms_scoped (bare : p.graph = none) :
    ({ p with graph := scope } : Pattern).terms = p.terms ++ scope.toList := by
  obtain ⟨serial, s, v, o, g⟩ := p
  cases bare
  rfl

theorem writable_scoped (bare : p.graph = none) :
    ({ p with graph := scope } : Pattern).Writable ↔
      p.Writable ∧ ∀ r, scope = some (.resource r) → iriAllowed r.iri = true := by
  rw [Writable, Writable, terms_scoped bare]
  simp only [List.mem_append, or_imp, forall_and, Option.mem_toList]

theorem Writable.exists_triple (h : p.Writable) :
    ∃ triple, (∀ scope : Term, ({ p with graph := some scope } : Pattern).written =
        scope.writtenScope.map fun name => "GRAPH " ++ name ++ " \x7b " ++ triple ++ " . \x7d") ∧
      ({ p with graph := none } : Pattern).written = .ok (triple ++ " .") := by
  have each : ∀ t ∈ [p.subject, p.predicate, p.object], ∃ s, t.written = .ok s := by
    intro t member
    apply t.reports_written.ok_iff.mpr
    rintro way e ⟨-, r, rfl, refused, -⟩
    rw [h r (List.mem_append_left _ member)] at refused
    cases refused
  obtain ⟨s, subject⟩ := each p.subject (by simp)
  obtain ⟨v, predicate⟩ := each p.predicate (by simp)
  obtain ⟨o, object⟩ := each p.object (by simp)
  refine ⟨s ++ " " ++ v ++ " " ++ o, fun scope => ?_, ?_⟩
  · simp only [written, subject, predicate, object]
    cases scope.writtenScope <;> rfl
  · simp only [written, subject, predicate, object]
    rfl

end Pattern

namespace Group

variable [IriCheck] {g g' : Group} {x : Element}

theorem writable_congr (same : g'.elements = g.elements) : g'.Writable ↔ g.Writable := by
  rw [Writable, Writable, same]

theorem writable_append :
    ({ g with elements := g.elements ++ [x] } : Group).Writable ↔ g.Writable ∧ x.Writable := by
  simp [Writable, or_imp, forall_and]

end Group

namespace Draft

variable [IriCheck] {d d' : Draft} {g : GroupId} {q : QueryId} {indent : String} {n level : Nat}

theorem writable_congr (group : ∀ g, (d'.group g).elements = (d.group g).elements)
    (form : (d'.query q).form = (d.query q).form) (body : (d'.query q).body = (d.query q).body) :
    d'.Writable q ↔ d.Writable q := by
  have contains : d'.Contains = d.Contains := by
    funext outer inner
    rw [Contains, Contains, Group.groups, Group.groups, group]
  have parts : (d'.query q).parts = (d.query q).parts := by
    rw [Query.parts, Query.parts, form, body]
  have tail : tailLines (d'.query q) = tailLines (d.query q) := by
    unfold tailLines
    rw [form]
  have groups : ∀ g, (d'.group g).Writable ↔ (d.group g).Writable :=
    fun g => Group.writable_congr (group g)
  constructor
  · rintro ⟨formed, last, writable⟩
    rw [form] at formed
    rw [tail] at last
    simp only [parts, Encloses, contains, groups] at writable
    exact ⟨formed, last, writable⟩
  · rintro ⟨formed, last, writable⟩
    refine ⟨form ▸ formed, tail ▸ last, ?_⟩
    simp only [parts, Encloses, contains, groups]
    exact writable

theorem writable_append_pattern {p : Pattern} (there : d.HasGroup g)
    (within : ∃ part ∈ (d.query q).parts, d.Encloses part g) :
    (d.append g (.pattern p)).Writable q ↔ d.Writable q ∧ p.Writable := by
  have contains : (d.append g (.pattern p)).Contains = d.Contains :=
    contains_append_of_ne_group there nofun
  have changed : ((d.append g (.pattern p)).group g).Writable ↔
      (d.group g).Writable ∧ p.Writable := by
    rw [group_append d g _ there, if_pos rfl]
    exact Group.writable_append
  have others : ∀ other, other ≠ g → (d.append g (.pattern p)).group other = d.group other := by
    intro other apart
    rw [group_append d g _ there, if_neg apart]
  constructor
  · rintro ⟨formed, tail, groups⟩
    simp only [Encloses, contains] at groups
    refine ⟨⟨formed, tail, fun part member other below => ?_⟩, ?_⟩
    · have writable := groups part member other below
      by_cases same : other = g
      · subst same
        exact (changed.mp writable).1
      · rwa [others other same] at writable
    · obtain ⟨part, member, below⟩ := within
      exact (changed.mp (groups part member g below)).2
  · rintro ⟨⟨formed, tail, groups⟩, fit⟩
    refine ⟨formed, tail, ?_⟩
    simp only [Encloses, contains]
    intro part member other below
    have writable := groups part member other below
    by_cases same : other = g
    · subst same
      exact changed.mpr ⟨writable, fit⟩
    · rwa [others other same]

theorem writable_gain (body : d.HasGroup (d.query q).body) (u : String) :
    ((d.addGroup (.graph u)).append (d.query q).body (.group d.nextGroup)).Writable q ↔
      d.Writable q := by
  have there : (d.addGroup (.graph u)).HasGroup (d.query q).body :=
    (hasGroup_addGroup _ _ _).mpr (.inl body)
  generalize made : (d.addGroup (.graph u)).append (d.query q).body (.group d.nextGroup) = d'
  have edges : ∀ a b, d'.Contains a b ↔
      d.Contains a b ∨ a = (d.query q).body ∧ b = d.nextGroup := by
    intro a b
    rw [← made, contains_append there, contains_addGroup, Element.group.injEq, eq_comm (a := b)]
  have elements : ∀ g, (d'.group g).elements =
      if g = (d.query q).body then (d.group g).elements ++ [.group d.nextGroup]
      else (d.group g).elements := by
    intro g
    rw [← made, group_append _ _ _ there]
    split
    · rename_i same
      rw [same]
      simp only [elements_addGroup]
    · rw [elements_addGroup]
  have same : ∀ g, (d'.group g).Writable ↔ (d.group g).Writable := by
    intro g
    have is := elements g
    split at is
    · rw [Group.writable_congr (g := { d.group g with
        elements := (d.group g).elements ++ [.group d.nextGroup] }) is, Group.writable_append]
      exact and_iff_left trivial
    · exact Group.writable_congr is
  have empty : (d.group d.nextGroup).elements = [] := by
    have absent : ¬ d.HasGroup d.nextGroup := Nat.lt_irrefl _
    rw [group_of_not_hasGroup _ absent]
    rfl
  have query : d'.query q = d.query q := by rw [← made]; rfl
  constructor
  · rintro ⟨formed, tail, groups⟩
    rw [query] at formed tail groups
    refine ⟨formed, tail, fun part member g below => (same g).mp (groups part member g ?_)⟩
    exact Relation.ReflTransGen.mono (fun a b edge => (edges a b).mpr (.inl edge)) _ _ below
  · rintro ⟨formed, tail, groups⟩
    rw [← query] at formed tail
    refine ⟨formed, tail, fun part member g below => (same g).mpr ?_⟩
    rw [query] at member
    -- a way down takes the old edges, or ends in the new graph
    have reached : d.Encloses part g ∨ g = d.nextGroup := by
      induction below with
      | refl => exact .inl .refl
      | tail _ edge ih =>
        rcases (edges _ _).mp edge with old | ⟨-, new⟩
        · rcases ih with below | rfl
          · exact .inl (below.tail old)
          · rw [Contains, Group.groups, empty] at old
            cases old
        · exact .inr new
    rcases reached with below | rfl
    · exact groups part member g below
    · rw [Group.Writable, empty]
      exact List.forall_mem_nil _

omit [IriCheck] in
theorem rooted_append (rooted : ∀ root ∈ (d.query q).roots, d.HasGroup root) (x : Element) :
    ∀ root ∈ (d.query q).roots, (d.append g x).HasGroup root :=
  fun root member => (hasGroup_append d g x root).mpr (rooted root member)

section Appended

variable {p : Pattern} (nested : d.WellNested) (rooted : ∀ g ∈ (d.query q).roots, d.HasGroup g)
  (there : d.HasGroup g) (within : ∃ part ∈ (d.query q).parts, d.Encloses part g)
include nested rooted there within

theorem sparql_append_ok_iff :
    (∃ text, (d.append g (.pattern p)).sparql indent q = .ok text) ↔ d.Writable q ∧ p.Writable := by
  have nested' : (d.append g (.pattern p)).WellNested := nested.append_of_ne_group there nofun
  rw [sparql_ok_iff nested' (rooted_append rooted _) indent]
  exact writable_append_pattern there within

theorem sparql_append_refused {iri : String} (writable : d.Writable q) (unfit : ¬ p.Writable)
    (only : ∀ r, .resource r ∈ p.terms → iriAllowed r.iri = false → r.iri = iri) :
    (d.append g (.pattern p)).sparql indent q = .error (.unwritableIri iri) := by
  have refused : ¬ ∃ text, (d.append g (.pattern p)).sparql indent q = .ok text :=
    fun written => unfit ((sparql_append_ok_iff nested rooted there within).mp written).2
  have nested' : (d.append g (.pattern p)).WellNested := nested.append_of_ne_group there nofun
  have reports :=
    reports_sparql nested' (rooted_append rooted _) writable.formed writable.tail indent
  cases outcome : (d.append g (.pattern p)).sparql indent q with
  | ok text => exact absurd ⟨text, outcome⟩ refused
  | error e =>
    rw [outcome] at reports
    obtain ⟨place, wrong, -⟩ := reports
    obtain ⟨part, member, other, below, blamed⟩ := exists_offence_iff.mp ⟨place, wrong⟩
    have contains : (d.append g (.pattern p)).Contains = d.Contains :=
      contains_append_of_ne_group there nofun
    rw [Encloses, contains] at below
    have old := writable.groups part member other below
    have elements : ∀ x ∈ ((d.append g (.pattern p)).group other).elements,
        x.Writable ∨ x = .pattern p := by
      intro x among
      rw [group_append d g _ there] at among
      split at among
      · rename_i same
        subst same
        rcases List.mem_append.mp among with before | last
        · exact .inl (old x before)
        · exact .inr (List.mem_singleton.mp last)
      · exact .inl (old x among)
    rcases blamed with ⟨thing, among, -⟩ | ⟨p', among, r, term, bad, rfl⟩
    · rcases elements _ among with fit | same
      · exact fit.elim
      · cases same
    · rcases elements _ among with fit | same
      · rw [fit r term] at bad
        cases bad
      · cases same
        rw [only r term bad]

end Appended

theorem exists_part {ls : List String} {front back : List Element} {x : Element}
    (written : d.lines indent (n + 1) level g = .ok ls)
    (elements : (d.group g).elements = front ++ x :: back) :
    ∃ before part after, d.elementLines indent n level x = .ok part ∧
      ls = before ++ part ++ after ∧ (back = [] → after = []) := by
  rw [lines_succ, elements, List.mapM_append, List.mapM_cons] at written
  obtain ⟨parts, made, whole⟩ := exists_of_bind_eq_ok written
  obtain ⟨before, -, made⟩ := exists_of_bind_eq_ok made
  obtain ⟨rest, later, made⟩ := exists_of_bind_eq_ok made
  obtain ⟨part, is, later⟩ := exists_of_bind_eq_ok later
  obtain ⟨after, last, later⟩ := exists_of_bind_eq_ok later
  cases later
  cases made
  cases whole
  refine ⟨before.flatten, part, after.flatten, is, by simp, ?_⟩
  rintro rfl
  cases last
  rfl

theorem exists_part_of_sparql {text : String} {front back : List Element} {x : Element}
    (written : d.sparql indent q = .ok text)
    (elements : (d.group (d.query q).body).elements = front ++ x :: back) :
    ∃ n before part after, d.elementLines indent n 1 x = .ok part ∧
      text = String.join ((before ++ part ++ after).map (· ++ "\n")) := by
  obtain ⟨ls, made, written⟩ := exists_of_bind_eq_ok written
  cases written
  obtain ⟨head, -, made⟩ := exists_of_bind_eq_ok made
  obtain ⟨body, inside, made⟩ := exists_of_bind_eq_ok made
  obtain ⟨tail, -, made⟩ := exists_of_bind_eq_ok made
  cases made
  cases depth : d.depth with
  | zero =>
    rw [depth] at inside
    cases inside
  | succ n =>
    rw [depth] at inside
    obtain ⟨before, part, after, is, rfl, -⟩ := exists_part inside elements
    refine ⟨n, namespaceLines (d.query q) ++ head ++ "WHERE \x7b" :: before, part,
      after ++ "\x7d" :: tail, is, ?_⟩
    simp

end Draft

/-- How a triple is scoped to a named graph: by a text, by a resource, or by standing in it. -/
inductive Scoping
  | text
  | resource
  | group
deriving DecidableEq

namespace Draft

variable {d d' : Draft} {role : Role} {x : Operand} {t : Term}

theorem termFor_of_expression (same : ∀ v, d'.expression? v = d.expression? v)
    (made : d.termFor role x = .ok t) : d'.termFor role x = .ok t := by
  cases x with
  | absent | foreign => cases made
  | literal => exact made
  | entity e =>
    cases e with
    | pattern | group | bare | query => cases made
    | resource | blank => exact made
    | «variable» v =>
      unfold termFor at made ⊢
      simp only [same]
      exact made

theorem patternFor_of_expression {n : Nat} {s v o : Operand} {p : Pattern} {scope : Option Term}
    (same : ∀ v, d'.expression? v = d.expression? v)
    (made : d.patternFor n s v o .absent = .ok p) (fit : d'.scopeFor x = .ok scope) :
    p.graph = none ∧ d'.patternFor n s v o x = .ok { p with graph := scope } := by
  obtain ⟨s', subject, made⟩ := exists_of_bind_eq_ok made
  obtain ⟨v', predicate, made⟩ := exists_of_bind_eq_ok made
  obtain ⟨o', object, made⟩ := exists_of_bind_eq_ok made
  cases made
  refine ⟨rfl, ?_⟩
  unfold patternFor
  rw [termFor_of_expression same subject, termFor_of_expression same predicate,
    termFor_of_expression same object, fit]
  rfl

end Draft

namespace Composition

open Draft

section Scoped

variable [IriCheck]

def withTriple (c : Composition) (q : QueryId) (u : String) (s v o : Operand) :
    Scoping → Composition
  | .text => c.after (.addPattern (c.draft.query q).body s v o (.literal (.text u)))
  | .resource =>
    match c.outcome (.internResource q u) with
    | .ok (.entity e) =>
      (c.after (.internResource q u)).after (.addPattern (c.draft.query q).body s v o (.entity e))
    | _ => c.after (.internResource q u)
  | .group =>
    match c.outcome (.internGraph q u) with
    | .ok (.entity (.group g)) =>
      (c.after (.internGraph q u)).after (.addPattern g s v o .absent)
    | _ => c.after (.internGraph q u)

structure Prepared (c : Composition) (d : Draft) (q : QueryId) (g : GroupId) : Prop where
  nested : d.WellNested
  rooted : ∀ root ∈ (d.query q).roots, d.HasGroup root
  there : d.HasGroup g
  within : ∃ part ∈ (d.query q).parts, d.Encloses part g
  writable : d.Writable q ↔ c.draft.Writable q

/-- The operand is a scope there, and triples are patterns there as they are in the composition. -/
structure Readied (c : Composition) (d : Draft) (q : QueryId) (g : GroupId) (x : Operand)
    (scope : Option Term) : Prop extends c.Prepared d q g where
  expression : ∀ v, d.expression? v = c.draft.expression? v
  serial : d.serial = c.draft.serial
  scope : d.scopeFor x = .ok scope

theorem Prepared.advance {c : Composition} {d : Draft} {q : QueryId} {g : GroupId}
    (h : c.Prepared d q g) : c.Prepared d.advance q g where
  nested := ⟨h.nested.acyclic, h.nested.closed⟩
  rooted := h.rooted
  there := h.there
  within := h.within
  writable := by
    have same : d.advance.Writable q ↔ d.Writable q := writable_congr (fun _ => rfl) rfl rfl
    exact same.trans h.writable

def Stands (d : Draft) (q : QueryId) (u : String) (g : GroupId) (scope : Option Term) :
    Scoping → Prop
  | .text => g = (d.query q).body ∧ scope = some (.literal (.text u))
  | .resource => g = (d.query q).body ∧ ∃ r, r.iri = u ∧ scope = some (.resource r)
  | .group => (d.group g).kind = .graph u ∧ d.Contains (d.query q).body g ∧ scope = none

variable {c : Composition} {q : QueryId} {u : String} {s v o : Operand} {p : Pattern}

omit [IriCheck] in
theorem encloses_of_body {d : Draft} {g : GroupId} (h : d.Encloses (d.query q).body g) :
    ∃ part ∈ (d.query q).parts, d.Encloses part g :=
  ⟨_, Query.mem_parts.mpr (Query.body_mem_roots _), h⟩

omit [IriCheck] in
theorem stands_advance {d : Draft} {g : GroupId} {scope : Option Term} {way : Scoping} :
    Stands d.advance q u g scope way ↔ Stands d q u g scope way := by
  cases way <;> rfl

/-- With a draft that is readied for it, the way comes to adding a pattern. -/
def Readies (c : Composition) (q : QueryId) (u : String) (s v o : Operand) (way : Scoping) : Prop :=
  ∃ (c' : Composition) (g : GroupId) (x : Operand) (scope : Option Term),
    c.Readied c'.draft q g x scope ∧ Stands c'.draft q u g scope way ∧
      c.withTriple q u s v o way = c'.after (.addPattern g s v o x)

section Ways

variable (h : c.Reachable) (there : c.draft.HasQuery q)
include h there

theorem prepared_of_encloses {g : GroupId} (below : c.draft.Encloses (c.draft.query q).body g)
    (has : c.draft.HasGroup g) : c.Prepared c.draft q g :=
  ⟨h.wellNested, h.rooted_changes.1 q there, has, encloses_of_body below, Iff.rfl⟩

theorem readies_text (s v o : Operand) : c.Readies q u s v o .text :=
  ⟨c, (c.draft.query q).body, .literal (.text u), some (.literal (.text u)),
    ⟨prepared_of_encloses h there .refl (h.hasGroup_body there), fun _ => rfl, rfl, rfl⟩,
    ⟨rfl, rfl⟩, rfl⟩

theorem readied_meet (i : Identifier) :
    c.Readied (c.draft.revise q (·.meet i)) q (c.draft.query q).body (.entity (.resource ⟨q, i⟩))
      (some (.resource ⟨q, i⟩)) := by
  have query : (c.draft.revise q (·.meet i)).query q = (c.draft.query q).meet i :=
    query_revise _ _ _ there
  have asked : ∀ other,
      ((c.draft.revise q (·.meet i)).query other).asked = (c.draft.query other).asked := by
    intro other
    by_cases same : other = q
    · rw [same, query]
      rfl
    · rw [query_revise_ne _ _ _ same]
  have kept : (c.draft.revise q (·.meet i)).Writable q ↔ c.draft.Writable q := by
    refine writable_congr (fun _ => rfl) ?_ ?_ <;> rw [query] <;> rfl
  refine ⟨⟨⟨h.wellNested.acyclic, h.wellNested.closed⟩, ?_, h.hasGroup_body there, ?_, kept⟩,
    fun w => ?_, rfl, rfl⟩
  · rw [query]
    exact h.rooted_changes.1 q there
  · apply encloses_of_body
    rw [query]
    exact .refl
  · rw [Draft.expression?, Draft.expression?, asked]

theorem readies_resource (named : u ≠ "") (s v o : Operand) :
    c.Readies q u s v o .resource := by
  obtain ⟨i, split⟩ := Identifier.exists_ofText? named
  have answered : c.outcome (.internResource q u) = .ok (.entity (.resource ⟨q, i⟩)) :=
    outcome_request (r := .resources) split
  have made : c.after (.internResource q u) = ⟨c.draft.revise q (·.meet i), c.patterns⟩ :=
    after_request (r := .resources) split
  have body : ((c.draft.revise q (·.meet i)).query q).body = (c.draft.query q).body := by
    rw [query_revise _ _ _ there]
    rfl
  refine ⟨⟨c.draft.revise q (·.meet i), c.patterns⟩, _, _, _, readied_meet h there i,
    ⟨body.symm, _, Identifier.text_of_ofText? split, rfl⟩, ?_⟩
  simp only [withTriple, answered, made]

theorem readies_group_of_eq_some {g : GroupId} (known : c.draft.graph? q u = some g)
    (s v o : Operand) : c.Readies q u s v o .group := by
  obtain ⟨rest, graphs⟩ := List.head?_eq_some_iff.mp ((graph?_eq_head? _ _ _).symm.trans known)
  obtain ⟨answered, same⟩ := internGraph_of_graphs h there graphs
  have edge : c.draft.Contains (c.draft.query q).body g := List.mem_of_find?_eq_some known
  have kind : (c.draft.group g).kind = .graph u := by simpa using List.find?_some known
  have prepared := prepared_of_encloses h there (.single edge) (h.wellNested.closed _ _ edge)
  refine ⟨c, g, .absent, none, ⟨prepared, fun _ => rfl, rfl, rfl⟩, ⟨kind, edge, rfl⟩, ?_⟩
  simp only [withTriple, answered, same]

theorem readies_group_of_eq_none (named : u ≠ "") (unknown : c.draft.graph? q u = none)
    (s v o : Operand) : c.Readies q u s v o .group := by
  have body := h.hasGroup_body there
  have there' : (c.draft.addGroup (.graph u)).HasGroup (c.draft.query q).body :=
    (hasGroup_addGroup _ _ _).mpr (.inl body)
  have apart : c.draft.nextGroup ≠ (c.draft.query q).body := by
    intro same
    rw [← same] at body
    exact Nat.lt_irrefl _ body
  have run : (Operation.internGraph q u).run.run c.draft =
      .ok (.entity (.group c.draft.nextGroup)) ((c.draft.addGroup (.graph u)).append
        (c.draft.query q).body (.group c.draft.nextGroup)) := by
    have some : u.isEmpty = false := by simpa using named
    rw [Operation.run, EStateM.run_bind, Edit.run_internGraph _ _ _ body, unknown]
    simp only [some, Bool.false_eq_true, if_false]
    rfl
  have answered := outcome_of_ok run
  have made := after_of_ok run rfl
  have reachable : (c.after (.internGraph q u)).Reachable := h.tail ⟨.internGraph q u, there, rfl⟩
  rw [made] at reachable
  have edge := (contains_append there' (c.draft.query q).body c.draft.nextGroup).mpr
    (.inr ⟨rfl, rfl⟩)
  have nested := reachable.wellNested
  refine ⟨_, c.draft.nextGroup, .absent, none, ⟨⟨nested, reachable.rooted_changes.1 q there,
    nested.closed _ _ edge, encloses_of_body (.single edge), writable_gain body u⟩,
    fun _ => rfl, rfl, rfl⟩, ⟨?_, edge, rfl⟩, ?_⟩
  · rw [group_append _ _ _ there', if_neg apart, group_addGroup_next]
  · simp only [withTriple, answered, made]

theorem readies (named : u ≠ "") (s v o : Operand) (way : Scoping) :
    c.Readies q u s v o way := by
  cases way with
  | text => exact readies_text h there s v o
  | resource => exact readies_resource h there named s v o
  | group =>
    cases known : c.draft.graph? q u with
    | some g => exact readies_group_of_eq_some h there known s v o
    | none => exact readies_group_of_eq_none h there named known s v o

end Ways

/-- Each way puts the triple, with its scope, at the end of a group that the text shows. -/
theorem exists_draft_withTriple (h : c.Reachable) (there : c.draft.HasQuery q) (named : u ≠ "")
    (made : c.draft.patternFor c.draft.serial s v o .absent = .ok p) (way : Scoping) :
    ∃ d g scope, c.Prepared d q g ∧ Stands d q u g scope way ∧ p.graph = none ∧
      (c.withTriple q u s v o way).draft = d.append g (.pattern { p with graph := scope }) := by
  obtain ⟨c', g, x, scope, ready, stands, is⟩ := readies h there named s v o way
  obtain ⟨bare, fit⟩ := patternFor_of_expression ready.expression made ready.scope
  rw [← ready.serial] at fit
  refine ⟨c'.draft.advance, g, scope, ready.advance, stands_advance.mpr stands, bare, ?_⟩
  rw [is, after, Operation.run, EStateM.run_bind, Edit.run_addPattern, fit]
  rfl

theorem outcome_sparql_eq_ok_iff {indent text : String} :
    c.outcome (.sparql indent q) = .ok (.text text) ↔ c.draft.sparql indent q = .ok text := by
  rw [outcome_sparql]
  cases c.draft.sparql indent q with
  | error e => exact ⟨nofun, nofun⟩
  | ok written => simp [Except.map]

def blockLines (indent u triple : String) (inner : List String) : Scoping → List String
  | .text | .resource =>
    [indentation indent 1 ++ (opening (.graph u) ++ " " ++ triple ++ " . \x7d")]
  | .group =>
    (indentation indent 1 ++ opening (.graph u)) ::
      (inner ++ [indentation indent 2 ++ (triple ++ " .")]) ++ [indentation indent 1 ++ "\x7d"]

theorem scope_allowed_iff {d : Draft} {g : GroupId} {scope : Option Term} {way : Scoping}
    (stands : Stands d q u g scope way) :
    (∀ r, scope = some (.resource r) → iriAllowed r.iri = true) ↔
      (way = .resource → iriAllowed u = true) := by
  cases way with
  | text =>
    obtain ⟨-, rfl⟩ := stands
    exact ⟨fun _ => nofun, fun _ _ => nofun⟩
  | group =>
    obtain ⟨-, -, rfl⟩ := stands
    exact ⟨fun _ => nofun, fun _ _ => nofun⟩
  | resource =>
    obtain ⟨-, r, rfl, rfl⟩ := stands
    constructor
    · exact fun allowed _ => allowed r rfl
    · rintro allowed r' ⟨⟩
      exact allowed rfl

omit [IriCheck] in
theorem append_eq_reference (u triple : String) :
    "GRAPH " ++ ("<" ++ u ++ ">") ++ " \x7b " ++ triple ++ " . \x7d" =
      opening (.graph u) ++ " " ++ triple ++ " . \x7d" := by
  apply String.toList_injective
  simp [opening]

section Block

variable {d : Draft} {g : GroupId} {indent text triple : String} (there : d.HasGroup g)
include there

theorem exists_line (shown : p.written = .ok triple) (body : g = (d.query q).body)
    (written : (d.append g (.pattern p)).sparql indent q = .ok text) :
    ∃ before after, text =
      String.join ((before ++ [indentation indent 1 ++ triple] ++ after).map (· ++ "\n")) := by
  have elements : ((d.append g (.pattern p)).group
      ((d.append g (.pattern p)).query q).body).elements = (d.group g).elements ++ [.pattern p] := by
    rw [query_append, ← body, group_append d g _ there, if_pos rfl]
  obtain ⟨n, before, part, after, line, rfl⟩ := exists_part_of_sparql written elements
  rw [elementLines_pattern shown] at line
  cases line
  exact ⟨before, after, rfl⟩

theorem exists_lines_of_graph (plain : p.written = .ok triple) (kind : (d.group g).kind = .graph u)
    (edge : d.Contains (d.query q).body g)
    (written : (d.append g (.pattern p)).sparql indent q = .ok text) :
    ∃ before inner after, text = String.join ((before ++
      ((indentation indent 1 ++ opening (.graph u)) ::
        (inner ++ [indentation indent 2 ++ triple]) ++ [indentation indent 1 ++ "\x7d"]) ++
      after).map (· ++ "\n")) := by
  have group : (d.append g (.pattern p)).group g =
      { d.group g with elements := (d.group g).elements ++ [.pattern p] } := by
    rw [group_append d g _ there, if_pos rfl]
  have contains : (d.append g (.pattern p)).Contains (d.query q).body g := by
    have same : (d.append g (.pattern p)).Contains = d.Contains :=
      contains_append_of_ne_group there nofun
    rw [same]
    exact edge
  obtain ⟨x, member, is⟩ := List.mem_filterMap.mp contains
  cases x with
  | pattern | stray => cases is
  | group inner =>
    cases is
    obtain ⟨front, back, elements⟩ := List.append_of_mem member
    obtain ⟨n, before, part, after, lines, rfl⟩ := exists_part_of_sparql written elements
    obtain ⟨ls, inside, lines⟩ := exists_of_bind_eq_ok lines
    cases lines
    cases n with
    | zero => cases inside
    | succ n =>
      have last : ((d.append g (.pattern p)).group g).elements =
          (d.group g).elements ++ [.pattern p] := by rw [group]
      obtain ⟨inner, line, none, made, rfl, closes⟩ := exists_part inside last
      rw [elementLines_pattern plain] at made
      cases made
      rw [closes rfl, List.append_nil, group, kind]
      exact ⟨before, inner, after, rfl⟩

end Block

section Named

variable (h : c.Reachable) (there : c.draft.HasQuery q) (named : u ≠ "")
  (made : c.draft.patternFor c.draft.serial s v o .absent = .ok p) (indent : String)
include h there named made

theorem sparql_withTriple_ok_iff (way : Scoping) :
    (∃ text, (c.withTriple q u s v o way).outcome (.sparql indent q) = .ok (.text text)) ↔
      (∃ text, c.outcome (.sparql indent q) = .ok (.text text)) ∧ (∃ line, p.written = .ok line) ∧
        (way = .resource → iriAllowed u = true) := by
  have before := outcome_sparql_ok_iff h there indent
  obtain ⟨d, g, scope, ready, stands, bare, draft⟩ :=
    exists_draft_withTriple h there named made way
  simp only [outcome_sparql_eq_ok_iff (c := c.withTriple q u s v o way), draft]
  rw [sparql_append_ok_iff ready.nested ready.rooted ready.there ready.within, ready.writable,
    Pattern.writable_scoped bare, scope_allowed_iff stands, before, Pattern.writable_iff]

theorem sparql_withTriple_refused
    (fine : ∃ text, c.outcome (.sparql indent q) = .ok (.text text))
    (triple : ∃ line, p.written = .ok line) (refused : iriAllowed u = false) :
    (c.withTriple q u s v o .resource).outcome (.sparql indent q) = .error (.unwritableIri u) := by
  have before := outcome_sparql_ok_iff h there indent
  obtain ⟨d, g, scope, ready, stands, bare, draft⟩ :=
    exists_draft_withTriple h there named made .resource
  obtain ⟨-, r, rfl, rfl⟩ := stands
  have unfit : ¬ ({ p with graph := some (.resource r) } : Pattern).Writable := by
    rw [Pattern.writable_scoped bare]
    rintro ⟨-, allowed⟩
    rw [allowed r rfl] at refused
    cases refused
  have only : ∀ r', .resource r' ∈ ({ p with graph := some (.resource r) } : Pattern).terms →
      iriAllowed r'.iri = false → r'.iri = r.iri := by
    intro r' among bad
    rw [Pattern.terms_scoped bare] at among
    rcases List.mem_append.mp among with old | last
    · rw [Pattern.writable_iff.mpr triple r' old] at bad
      cases bad
    · cases List.mem_singleton.mp last
      rfl
  rw [outcome_sparql, draft, sparql_append_refused ready.nested ready.rooted ready.there
    ready.within (ready.writable.mpr (before.mp fine)) unfit only]
  rfl

theorem exists_blockLines {line : String} (shown : p.written = .ok line) :
    ∃ triple, line = triple ++ " ." ∧ ∀ way text,
      (c.withTriple q u s v o way).outcome (.sparql indent q) = .ok (.text text) →
      ∃ before inner after, text = String.join
        ((before ++ blockLines indent u triple inner way ++ after).map (· ++ "\n")) := by
  obtain ⟨triple, inScope, plain⟩ := (Pattern.writable_iff.mpr ⟨line, shown⟩).exists_triple
  have bare : p.graph = none := by
    obtain ⟨-, -, -, -, -, bare, -⟩ := exists_draft_withTriple h there named made .text
    exact bare
  have same : ({ p with graph := none } : Pattern) = p := by
    rw [← bare]
  rw [same] at plain
  refine ⟨triple, Except.ok.inj (shown.symm.trans plain), fun way text written => ?_⟩
  have allowed := ((sparql_withTriple_ok_iff h there named made indent way).mp ⟨text, written⟩).2.2
  obtain ⟨d, g, scope, ready, stands, -, draft⟩ :=
    exists_draft_withTriple h there named made way
  rw [outcome_sparql_eq_ok_iff, draft] at written
  cases way with
  | text =>
    obtain ⟨body, rfl⟩ := stands
    have named := inScope (.literal (.text u))
    rw [Term.writtenScope, Except.map, append_eq_reference] at named
    obtain ⟨front, back, is⟩ := exists_line ready.there named body written
    exact ⟨front, [], back, is⟩
  | resource =>
    obtain ⟨body, r, rfl, rfl⟩ := stands
    have reference : (Term.resource r).writtenScope = .ok ("<" ++ r.iri ++ ">") :=
      Term.written_resource _ rfl (allowed rfl)
    have named := inScope (.resource r)
    rw [reference, Except.map, append_eq_reference] at named
    obtain ⟨front, back, is⟩ := exists_line ready.there named body written
    exact ⟨front, [], back, is⟩
  | group =>
    obtain ⟨kind, edge, rfl⟩ := stands
    rw [same] at written
    exact exists_lines_of_graph ready.there plain kind edge written

end Named

/-- The ways to scope a triple to a graph with a name agree but for one thing. With each of them a
query is written just when it was before and the triple can be, and the graph is called the same in
its text. Only a resource has to have an IRI that may be written, and is refused otherwise; a text
and the name of a named graph are written whatever characters they hold. -/
theorem graph_name_written_iff {c : Composition} (h : c.Reachable) {q : QueryId}
    (there : c.draft.HasQuery q) {u : String} (named : u ≠ "") {s v o : Operand} {p : Pattern}
    (made : c.draft.patternFor c.draft.serial s v o .absent = .ok p) (indent : String) :
    (∀ way, (∃ text, (c.withTriple q u s v o way).outcome (.sparql indent q) = .ok (.text text)) ↔
      (∃ text, c.outcome (.sparql indent q) = .ok (.text text)) ∧ (∃ line, p.written = .ok line) ∧
        (way = .resource → iriAllowed u = true)) ∧
    ((∃ text, c.outcome (.sparql indent q) = .ok (.text text)) → (∃ line, p.written = .ok line) →
      iriAllowed u = false →
      (c.withTriple q u s v o .resource).outcome (.sparql indent q) = .error (.unwritableIri u)) ∧
    ∀ line, p.written = .ok line → ∃ triple, line = triple ++ " ." ∧ ∀ way text,
      (c.withTriple q u s v o way).outcome (.sparql indent q) = .ok (.text text) →
      ∃ before inner after, text = String.join
        ((before ++ blockLines indent u triple inner way ++ after).map (· ++ "\n")) :=
  ⟨sparql_withTriple_ok_iff h there named made indent,
    sparql_withTriple_refused h there named made indent,
    fun _ shown => exists_blockLines h there named made indent shown⟩

end Scoped

def emptySelect : Composition := start.replay [.newQuery false "SELECT"]

def withTexts (u : String) (way : Scoping) : Composition :=
  emptySelect.withTriple ⟨0⟩ u (.literal (.text "s")) (.literal (.text "p")) (.literal (.text "o"))
    way

theorem graph_name_written_iff_emptySelect :
    emptySelect.Reachable ∧ emptySelect.draft.HasQuery ⟨0⟩ ∧ iriAllowed "urn:g" = true ∧
    (∀ way, ∃ text, (withTexts "urn:g" way).outcome (.sparql standardIndent ⟨0⟩) =
      .ok (.text text)) ∧
    (withTexts "urn:g h" .resource).outcome (.sparql standardIndent ⟨0⟩) =
      .error (.unwritableIri "urn:g h") := by
  have facts : start.Admits [.newQuery false "SELECT"] ∧ emptySelect.draft.HasQuery ⟨0⟩ ∧
      iriAllowed "urn:g" = true ∧ iriAllowed "urn:g h" = false ∧
      (emptySelect.draft.sparql standardIndent ⟨0⟩).toOption.isSome = true := by
    decide +kernel
  obtain ⟨admits, there, allowed, refused, some⟩ := facts
  have reachable : emptySelect.Reachable := reachable_replay admits
  have made : emptySelect.draft.patternFor emptySelect.draft.serial (.literal (.text "s"))
      (.literal (.text "p")) (.literal (.text "o")) .absent =
        .ok ⟨emptySelect.draft.serial, .literal (.text "s"), .literal (.text "p"),
          .literal (.text "o"), none⟩ := rfl
  have fine : ∃ text, emptySelect.outcome (.sparql standardIndent ⟨0⟩) = .ok (.text text) := by
    cases written : emptySelect.draft.sparql standardIndent ⟨0⟩ with
    | error e =>
      rw [written] at some
      cases some
    | ok text => exact ⟨text, outcome_sparql_eq_ok_iff.mpr written⟩
  have plain := graph_name_written_iff reachable there (u := "urn:g") (by decide) made standardIndent
  have spaced :=
    graph_name_written_iff reachable there (u := "urn:g h") (by decide) made standardIndent
  exact ⟨reachable, there, allowed,
    fun way => (plain.1 way).mpr ⟨fine, ⟨_, rfl⟩, fun _ => allowed⟩,
    spaced.2.1 fine ⟨_, rfl⟩ refused⟩

def spilling : String := "g> \x7b ?x ?y ?z . \x7d GRAPH <h"

theorem graph_name_spilled :
    ((withTexts spilling .text).draft.sparql standardIndent ⟨0⟩).toOption = some
      "SELECT *\nWHERE \x7b\n  GRAPH <g> \x7b ?x ?y ?z . \x7d GRAPH <h> \x7b \"s\" \"p\" \"o\" . \x7d\n\x7d\n" ∧
    ((withTexts spilling .group).draft.sparql standardIndent ⟨0⟩).toOption = some
      "SELECT *\nWHERE \x7b\n  GRAPH <g> \x7b ?x ?y ?z . \x7d GRAPH <h> \x7b\n    \"s\" \"p\" \"o\" .\n  \x7d\n\x7d\n" ∧
    ((withTexts spilling .resource).draft.sparql standardIndent ⟨0⟩).toOption = none := by
  decide +kernel

end Composition

end SparqlCompose
